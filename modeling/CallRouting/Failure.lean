/-!
# Failures

A call can fail in many ways, and one failure can carry another as its cause.
`Failure` is what the work of a caller, or any layer below it, reports;
`RoutingError` is what an invocation as a whole reports, and may itself be the
cause of a further failure, so the two types refer to each other.

`causes` lists what lies below a failure, nearest first. It decides whether a
failure counts as one of a kind: the failure itself or any of its causes may be
of that kind. A wrapped transport failure is of the transport kind and takes over
the text and the causes of what it wraps; the wrapped failure is not among them.
-/

namespace CallRouting

mutual

/-- How the work of an attempt can fail. -/
inductive Failure
  /-- A transport failure with a text of its own. -/
  | transport (message : String)
  /-- A transport failure made of another failure. -/
  | transported (inner : Failure)
  | formatting
  | timeout
  | application (message : String)
  | applicationOver (message : String) (cause : Failure)
  | routing (error : RoutingError)
  /-- Any other failure, of which only the text is known. -/
  | plain (message : String)

/-- Why a call as a whole has no reply. -/
inductive RoutingError
  /-- No candidate was left to choose from. -/
  | noInstance (service : String)
  /-- Every attempt failed in a way that allows another one, and none is left. -/
  | exhausted (service : String) (attempts : Nat) (lastInstance : String) (cause : Failure)
  /-- An attempt failed in a way that allows no other one. -/
  | notRetryable (service : String) (attempts : Nat) (cause : Failure)
  | directoryUnavailable (service : String) (reason : String)
  | configuration (message : String)

end

instance : Inhabited Failure := ⟨.formatting⟩

instance : Inhabited RoutingError := ⟨.configuration ""⟩

mutual

/-- The text of a failure. -/
def Failure.message : Failure → String
  | .transport message => message
  | .transported inner => inner.message
  | .formatting => "an error occurred when formatting an argument"
  | .timeout => "deadline has elapsed"
  | .application message => message
  | .applicationOver message _ => message
  | .routing error => error.message
  | .plain message => message

/-- The text of a routing error. -/
def RoutingError.message : RoutingError → String
  | .noInstance service => "服务 [" ++ service ++ "] 没有可用实例"
  | .exhausted service attempts lastInstance cause =>
    "服务 [" ++ service ++ "] 重试耗尽: 共尝试 " ++ toString attempts ++ " 次, 最后实例 " ++
      lastInstance ++ ": " ++ cause.message
  | .notRetryable service attempts cause =>
    "服务 [" ++ service ++ "] 调用失败 (第 " ++ toString attempts ++ " 次尝试, 不可重试): " ++
      cause.message
  | .directoryUnavailable service reason => "注册中心不可用, 服务 [" ++ service ++ "]: " ++ reason
  | .configuration message => "配置错误: " ++ message

end

mutual

/-- The failures below a failure, nearest first. -/
def Failure.causes : Failure → List Failure
  | .transported inner => inner.causes
  | .applicationOver _ cause => cause :: cause.causes
  | .routing error => error.causes
  | .transport _ | .formatting | .timeout | .application _ | .plain _ => []

/-- The failures below a routing error, nearest first. -/
def RoutingError.causes : RoutingError → List Failure
  | .exhausted _ _ _ cause => cause :: cause.causes
  | .notRetryable _ _ cause => cause :: cause.causes
  | .noInstance _ | .directoryUnavailable _ _ | .configuration _ => []

end

namespace Failure

/-- What a failure is, apart from what it carries. -/
inductive Kind
  | transport
  | formatting
  | timeout
  | application
  | routing
  | plain
  deriving DecidableEq

/-- The kind of a failure itself, whatever it was caused by. -/
def kind : Failure → Kind
  | .transport _ | .transported _ => .transport
  | .formatting => .formatting
  | .timeout => .timeout
  | .application _ | .applicationOver _ _ => .application
  | .routing _ => .routing
  | .plain _ => .plain

/-- The failure and everything below it. -/
def chain (failure : Failure) : List Failure := failure :: failure.causes

/-- Whether one text occurs in another. -/
def occursIn (part : List Char) : List Char → Bool
  | [] => part.isEmpty
  | c :: rest => part.isPrefixOf (c :: rest) || occursIn part rest

/-- Whether the failure's own text holds a part. -/
def mentions (failure : Failure) (part : String) : Bool :=
  occursIn part.toList failure.message.toList

/-- Whether the failure, or anything below it, is of a type. -/
def hasType (failure : Failure) (ofType : Failure → Bool) : Bool := failure.chain.any ofType

/-- Whether the failure, or anything below it, is of a kind. -/
def isOrHas (failure : Failure) (kind : Kind) : Bool := failure.hasType (·.kind == kind)

/-- Whether the network is to blame: a transport failure or a timeout, or one of
those further below. -/
def isTransport (failure : Failure) : Bool :=
  failure.hasType fun link => link.kind == .transport || link.kind == .timeout

/-- A failure is one of transport if it, or something that caused it, is about transport or a
timeout. -/
theorem isTransport_eq (failure : Failure) :
    failure.isTransport = (failure.isOrHas .transport || failure.isOrHas .timeout) := by
  unfold isTransport isOrHas hasType
  induction failure.chain with
  | nil => rfl
  | cons link rest inductionHypothesis =>
    simp only [List.any_cons, inductionHypothesis]
    cases link.kind == .transport <;> cases link.kind == .timeout <;> simp

end Failure

/-- The number and the name by which a routing error is known to other programs. -/
inductive ErrorCode
  | noInstanceAvailable
  | retryExhausted
  | nonRetryable
  | directoryUnavailable
  | configurationError
  deriving DecidableEq

namespace ErrorCode

/-- All codes. -/
def all : List ErrorCode :=
  [noInstanceAvailable, retryExhausted, nonRetryable, directoryUnavailable, configurationError]

/-- The number of a code. -/
def number : ErrorCode → Nat
  | noInstanceAvailable => 1000
  | retryExhausted => 2000
  | nonRetryable => 2001
  | directoryUnavailable => 3000
  | configurationError => 9000

/-- The name of a code. -/
def name : ErrorCode → String
  | noInstanceAvailable => "NO_INSTANCE_AVAILABLE"
  | retryExhausted => "RETRY_EXHAUSTED"
  | nonRetryable => "NON_RETRYABLE"
  | directoryUnavailable => "DIRECTORY_UNAVAILABLE"
  | configurationError => "CONFIGURATION_ERROR"

/-- The code with this number. -/
def ofNumber? (number : Nat) : Option ErrorCode := all.find? (·.number == number)

/-- The code with this name. -/
def ofName? (name : String) : Option ErrorCode := all.find? (·.name == name)

/-- Each code is found by its number. -/
theorem ofNumber?_number (code : ErrorCode) : ofNumber? code.number = some code := by
  cases code <;> rfl

/-- Whether the same call may succeed a little later. -/
def isRetryable : ErrorCode → Bool
  | noInstanceAvailable | directoryUnavailable => true
  | retryExhausted | nonRetryable | configurationError => false

end ErrorCode

namespace RoutingError

/-- The code of an error. -/
def code : RoutingError → ErrorCode
  | .noInstance _ => .noInstanceAvailable
  | .exhausted .. => .retryExhausted
  | .notRetryable .. => .nonRetryable
  | .directoryUnavailable .. => .directoryUnavailable
  | .configuration _ => .configurationError

/-- The service that the error is about, if it is about one. -/
def service? : RoutingError → Option String
  | .noInstance service | .exhausted service .. | .notRetryable service ..
  | .directoryUnavailable service _ => some service
  | .configuration _ => none

/-- The failure that ended the invocation. -/
def lastFailure? : RoutingError → Option Failure
  | .exhausted _ _ _ cause | .notRetryable _ _ cause => some cause
  | .noInstance _ | .directoryUnavailable .. | .configuration _ => none

/-- Whether an error is worth another call, by its code. -/
def isRetryable (error : RoutingError) : Bool := error.code.isRetryable

end RoutingError

/-- A failure of the directory: its messages, the outermost context first. -/
structure DirectoryFault where
  messages : List String
  deriving DecidableEq

namespace DirectoryFault

/-- All messages on one line. -/
def text (fault : DirectoryFault) : String := ": ".intercalate fault.messages

/-- The message of the outermost context. -/
def top (fault : DirectoryFault) : String := fault.messages.headD ""

/-- The routing error that reports the fault for a service. -/
def routingError (fault : DirectoryFault) (service : String) : RoutingError :=
  .directoryUnavailable service fault.text

end DirectoryFault

end CallRouting
