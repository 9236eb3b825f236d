import LlmopsGateway.Math.FirstOccurrences
import LlmopsGateway.Soundness.AttemptResolution

/-! # The order of the attempts

Without a pin the names of the attempts are the native provider's, then those of the chain in the order of
their first occurrences; a name is dropped exactly when it is not registered or has no model to offer.
-/

namespace LlmopsGateway.RoutingService

open Math

variable {registry : ProviderRegistry} {settings : RoutingSettings} {request : ChatRequest}
    {provider : Provider}
  {model : String}

theorem orderedNames_eq (registry : ProviderRegistry) (settings : RoutingSettings) (request : ChatRequest) :
    ∃ fresh, orderedNames registry settings request =
        ((registry.findSupporting request.model).map Provider.name).toList ++ fresh ∧
      FirstOccurrences ((registry.findSupporting request.model).map Provider.name).toList
        settings.providerFallbackChain fresh :=
  appendNew_eq ..

end LlmopsGateway.RoutingService
