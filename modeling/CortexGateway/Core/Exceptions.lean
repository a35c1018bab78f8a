import Mathlib

/-! # The exceptions of the gateway

`app/providers/exceptions.py`, `app/routing/exceptions.py`,
`app/reliability/errors.py` and `app/budget/exceptions.py`, together with the
exceptions of Python, httpx and SQLAlchemy that the modelled code can meet.
`CancelledError` is a `BaseException` that `except Exception` does not catch. -/
set_option autoImplicit false
namespace CortexGateway

/-- `ProviderException` and the classes that extend it. -/
inductive ProviderErrorClass
  | providerException
  | invalidProviderError
  | providerDisabledError
  | invalidModelError
  | providerTimeoutError
  | providerRateLimitError
  | providerUnavailableError
  | providerAuthError
  | providerError
  | totalDeadlineExceededError
  | circuitOpenError
  | failoverExhaustedError
  | routingException
  | noRoutableProviderError
  | noCapableProviderError
  | invalidRoutingModeError
  | invalidManualRoutingError
  deriving DecidableEq, Repr

namespace ProviderErrorClass

/-- The direct base class. -/
def base : ProviderErrorClass → Option ProviderErrorClass
  | .providerException => none
  | .totalDeadlineExceededError => some .providerTimeoutError
  | .circuitOpenError => some .providerUnavailableError
  | .failoverExhaustedError => some .providerUnavailableError
  | .noRoutableProviderError => some .routingException
  | .noCapableProviderError => some .routingException
  | .invalidRoutingModeError => some .routingException
  | .invalidManualRoutingError => some .routingException
  | _ => some .providerException

/-- The hierarchy is three classes deep. -/
def issubclass (cls ancestor : ProviderErrorClass) : Bool :=
  cls = ancestor || cls.base = some ancestor || (cls.base.bind base) = some ancestor

def statusCode : ProviderErrorClass → ℕ
  | .providerException => 502
  | .invalidProviderError => 404
  | .providerDisabledError => 503
  | .invalidModelError => 400
  | .providerTimeoutError => 504
  | .providerRateLimitError => 429
  | .providerUnavailableError => 503
  | .providerAuthError => 502
  | .providerError => 502
  | .totalDeadlineExceededError => 504
  | .circuitOpenError => 503
  | .failoverExhaustedError => 503
  | .routingException => 400
  | .noRoutableProviderError => 503
  | .noCapableProviderError => 400
  | .invalidRoutingModeError => 400
  | .invalidManualRoutingError => 400

def code : ProviderErrorClass → String
  | .providerException => "PROVIDER_ERROR"
  | .invalidProviderError => "INVALID_PROVIDER"
  | .providerDisabledError => "PROVIDER_DISABLED"
  | .invalidModelError => "INVALID_MODEL"
  | .providerTimeoutError => "PROVIDER_TIMEOUT"
  | .providerRateLimitError => "PROVIDER_RATE_LIMITED"
  | .providerUnavailableError => "PROVIDER_UNAVAILABLE"
  | .providerAuthError => "PROVIDER_AUTHENTICATION_FAILED"
  | .providerError => "PROVIDER_ERROR"
  | .totalDeadlineExceededError => "PROVIDER_TIMEOUT"
  | .circuitOpenError => "PROVIDER_UNAVAILABLE"
  | .failoverExhaustedError => "PROVIDER_UNAVAILABLE"
  | .routingException => "ROUTING_ERROR"
  | .noRoutableProviderError => "NO_ROUTABLE_PROVIDER"
  | .noCapableProviderError => "NO_CAPABLE_PROVIDER"
  | .invalidRoutingModeError => "INVALID_ROUTING_MODE"
  | .invalidManualRoutingError => "INVALID_MANUAL_ROUTING"

end ProviderErrorClass

inductive Exc
  | provider (cls : ProviderErrorClass) (message : String)
  | rateLimitExceeded (message : String) (retryAfterSeconds : ℕ) (scope : String)
  | budgetExceeded (message : String) (teamId : String) (remaining : ℚ)
  | budgetConfigurationError (message : String)
  | missingGreenlet
  | attributeError (name : String)
  | keyError (key : String)
  | valueError (message : String)
  | typeError (message : String)
  | httpxTimeoutException
  | httpxConnectError
  | httpxNetworkError
  | connectionError
  | timeoutError
  | otherException (name : String)
  | cancelledError
  | otherBaseException (name : String)
  deriving DecidableEq, Repr

namespace Exc

/-- `isinstance(exc, Exception)`. -/
def isException : Exc → Bool
  | .cancelledError => false
  | .otherBaseException _ => false
  | _ => true

/-- `isinstance(exc, (cls, ...))` for provider exception classes. -/
def isinstance (exc : Exc) (classes : List ProviderErrorClass) : Bool :=
  match exc with
  | .provider cls _ => classes.any cls.issubclass
  | _ => false

/-- `isinstance(exc, (ValueError, TypeError))`. -/
def isValueOrTypeError : Exc → Bool
  | .valueError _ => true
  | .typeError _ => true
  | _ => false

/-- The low-level HTTP and network exceptions both classifiers list. -/
def isNetworkError : Exc → Bool
  | .httpxTimeoutException => true
  | .httpxConnectError => true
  | .httpxNetworkError => true
  | .connectionError => true
  | .timeoutError => true
  | _ => false

/-- `getattr(exc, "status_code", 500)`. -/
def statusCode : Exc → ℕ
  | .provider cls _ => cls.statusCode
  | .rateLimitExceeded .. => 429
  | .budgetExceeded .. => 402
  | _ => 500

/-- `getattr(exc, "code", type(exc).__name__)`; SQLAlchemy's errors have codes. -/
def code : Exc → String
  | .provider cls _ => cls.code
  | .rateLimitExceeded .. => "RATE_LIMIT_EXCEEDED"
  | .budgetExceeded .. => "BUDGET_EXCEEDED"
  | .budgetConfigurationError _ => "BUDGET_CONFIGURATION_ERROR"
  | .missingGreenlet => "xd2s"
  | .attributeError _ => "AttributeError"
  | .keyError _ => "KeyError"
  | .valueError _ => "ValueError"
  | .typeError _ => "TypeError"
  | .httpxTimeoutException => "TimeoutException"
  | .httpxConnectError => "ConnectError"
  | .httpxNetworkError => "NetworkError"
  | .connectionError => "ConnectionError"
  | .timeoutError => "TimeoutError"
  | .otherException name => name
  | .cancelledError => "CancelledError"
  | .otherBaseException name => name

end Exc

def circuitOpenError (provider : String) : Exc :=
  .provider .circuitOpenError ("Provider '" ++ provider ++
    "' circuit breaker is OPEN. Requests are temporarily blocked.")

def totalDeadlineExceededError : Exc :=
  .provider .totalDeadlineExceededError
    "Total request deadline exceeded across provider attempts."

def failoverExhaustedError : Exc :=
  .provider .failoverExhaustedError "All failover candidates failed or were unavailable."

end CortexGateway
