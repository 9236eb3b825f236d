import Mathlib.Tactic.Common

/-! # Computations that log events and may raise

A sequential handler talks to its collaborators and either returns or raises. Here its
interactions are an event log and its outcome an `Except`. The rules give the log and the outcome
of a sequence from those of its parts; after an error nothing more is logged.
-/

namespace LlmopsGateway.Machine

@[ext]
structure Logged (ε ω α : Type) where
  events : List ω := []
  outcome : Except ε α

namespace Logged

variable {ε ω α β : Type}

def pure (value : α) : Logged ε ω α := ⟨[], .ok value⟩

def raise (error : ε) : Logged ε ω α := ⟨[], .error error⟩

def log (event : ω) : Logged ε ω Unit := ⟨[event], .ok ()⟩

def bind (first : Logged ε ω α) (next : α → Logged ε ω β) : Logged ε ω β :=
  match first.outcome with
  | .ok value => ⟨first.events ++ (next value).events, (next value).outcome⟩
  | .error error => ⟨first.events, .error error⟩

instance : Monad (Logged ε ω) where
  pure := Logged.pure
  bind := Logged.bind

/-- `try: body finally: cleanup`, for a cleanup that does not raise. -/
def ensuring (body : Logged ε ω α) (cleanup : List ω) : Logged ε ω α :=
  ⟨body.events ++ cleanup, body.outcome⟩

/-- `try: body except: handler`; a handler that re-raises logs nothing. -/
def recover (body : Logged ε ω α) (handler : ε → Logged ε ω α) : Logged ε ω α :=
  match body.outcome with
  | .ok value => ⟨body.events, .ok value⟩
  | .error error => ⟨body.events ++ (handler error).events, (handler error).outcome⟩

@[simp] theorem pure_eq (value : α) : (Pure.pure value : Logged ε ω α) = ⟨[], .ok value⟩ := rfl

@[simp] theorem bind_ok (events : List ω) (value : α) (next : α → Logged ε ω β) :
    (⟨events, .ok value⟩ : Logged ε ω α) >>= next =
      ⟨events ++ (next value).events, (next value).outcome⟩ := rfl

@[simp] theorem bind_error (events : List ω) (error : ε) (next : α → Logged ε ω β) :
    (⟨events, .error error⟩ : Logged ε ω α) >>= next = ⟨events, .error error⟩ := rfl

/-- A computation whose result is dropped. -/
theorem events_discard (body : Logged ε ω α) :
    (body >>= fun _ => (Pure.pure () : Logged ε ω Unit)).events = body.events := by
  obtain ⟨events, outcome⟩ := body
  cases outcome with
  | ok value => rw [bind_ok, pure_eq, List.append_nil]
  | error error => rfl

@[simp] theorem recover_ok (events : List ω) (value : α) (handler : ε → Logged ε ω α) :
    recover ⟨events, .ok value⟩ handler = ⟨events, .ok value⟩ := rfl

@[simp] theorem recover_error (events : List ω) (error : ε) (handler : ε → Logged ε ω α) :
    recover ⟨events, .error error⟩ handler =
      ⟨events ++ (handler error).events, (handler error).outcome⟩ := rfl

/-- A handler that re-raises what it catches changes nothing. -/
theorem recover_of_reraised {body : Logged ε ω α} {handler : ε → Logged ε ω α}
    (reraised : ∀ error, body.outcome = .error error → handler error = raise error) :
    recover body handler = body := by
  obtain ⟨events, outcome⟩ := body
  cases outcome with
  | ok value => rfl
  | error error => rw [recover_error, reraised error rfl, raise, List.append_nil]

end Logged

end LlmopsGateway.Machine
