import CallRouting.Retry.Policy
import Mathlib.Logic.Relation

/-!
# Verdicts on wrapped failures

A policy that goes by a type of failures looks at a failure, at the source that it gives, at the
source of that, and so on. A failure of an application, and the routing errors that end an
invocation, give what they carry as their source, so nothing that was found in it is lost, through
any number of such wrappings. A transport failure made of another failure gives the source of that
one instead. It takes the place of what it wraps: a verdict stays if it came from further down, or
if transport failures are of the type themselves, as they are for the standard policy.

In no case is a failure found to be of a type if neither it nor anything that it carries is.
-/

namespace CallRouting

namespace Failure

/-- What a failure gives as its source. -/
def source? : Failure → Option Failure
  | .transported inner => inner.source?
  | .applicationOver _ cause => some cause
  | .routing (.exhausted _ _ _ cause) | .routing (.notRetryable _ _ cause) => some cause
  | .routing _ | .transport _ | .formatting | .timeout | .application _ | .plain _ => none

/-- A failure that gives what it carries as its source. -/
inductive Wraps : Failure → Failure → Prop
  | application (message : String) (inner : Failure) :
    Wraps (.applicationOver message inner) inner
  | exhausted (service : String) (attempts : Nat) (lastInstance : String) (inner : Failure) :
    Wraps (.routing (.exhausted service attempts lastInstance inner)) inner
  | notRetryable (service : String) (attempts : Nat) (inner : Failure) :
    Wraps (.routing (.notRetryable service attempts inner)) inner

/-- A failure that carries another one, whether it gives it as its source or not. -/
inductive Carries : Failure → Failure → Prop
  | wraps {outer inner : Failure} (wraps : Wraps outer inner) : Carries outer inner
  | transported (inner : Failure) : Carries (.transported inner) inner

/-- What gives another failure as its source has that one as its source. -/
theorem Wraps.source? {outer inner : Failure} (wraps : Wraps outer inner) :
    outer.source? = some inner := by
  cases wraps <;> rfl

/-- The causes of a failure are its source and the causes of that. -/
theorem causes_eq : (failure : Failure) →
    failure.causes = (failure.source?.map chain).getD []
  | .transported inner => by rw [causes, causes_eq inner, source?]
  | .applicationOver _ _ => rfl
  | .routing (.exhausted ..) | .routing (.notRetryable ..) => rfl
  | .routing (.noInstance _) | .routing (.directoryUnavailable ..)
  | .routing (.configuration _) => rfl
  | .transport _ | .formatting | .timeout | .application _ | .plain _ => rfl

/-- A failure is looked at first, and then its source is looked at in the same way. -/
theorem hasType_eq (failure : Failure) (ofType : Failure → Bool) :
    failure.hasType ofType = (ofType failure || failure.source?.any (·.hasType ofType)) := by
  unfold hasType
  rw [chain, List.any_cons, causes_eq]
  cases failure.source? <;> rfl

/-- Through any number of wrappings that give what they carry as their source, what was found is
found again. -/
theorem hasType_of_wraps (ofType : Failure → Bool) {outer inner : Failure}
    (within : Relation.ReflTransGen Wraps outer inner) (found : inner.hasType ofType = true) :
    outer.hasType ofType = true := by
  induction within using Relation.ReflTransGen.head_induction_on with
  | refl => exact found
  | head wraps _ inductionHypothesis =>
    rw [hasType_eq, wraps.source?, Option.any_some, inductionHypothesis, Bool.or_true]

/-- If all wrapping transport failures are of the type, what was found is found through any
wrappings at all. -/
theorem hasType_of_carries (ofType : Failure → Bool)
    (always : ∀ inner, ofType (.transported inner) = true) {outer inner : Failure}
    (within : Relation.ReflTransGen Carries outer inner) (found : inner.hasType ofType = true) :
    outer.hasType ofType = true := by
  induction within using Relation.ReflTransGen.head_induction_on with
  | refl => exact found
  | head carries _ inductionHypothesis =>
    cases carries with
    | wraps wraps =>
      exact hasType_of_wraps ofType (.single wraps) inductionHypothesis
    | transported inner => rw [hasType_eq, always, Bool.true_or]

/-- What carries a failure carries all of its chain, if the failure carries what is below it. -/
theorem Carries.chain {outer inner link : Failure} (carries : Carries outer inner)
    (member : link ∈ inner.chain)
    (below : link ∈ inner.causes → Relation.ReflTransGen Carries inner link) :
    Relation.ReflTransGen Carries outer link := by
  obtain rfl | deeper := List.mem_cons.mp member
  · exact .single carries
  · exact .head carries (below deeper)

/-- What stands below a failure is carried by it. -/
theorem carries_of_mem_causes : (failure link : Failure) → link ∈ failure.causes →
    Relation.ReflTransGen Carries failure link
  | .transported inner, link, member =>
    .head (.transported inner) (carries_of_mem_causes inner link member)
  | .applicationOver message cause, link, member =>
    (Carries.wraps (.application message cause)).chain member (carries_of_mem_causes cause link)
  | .routing (.exhausted service attempts lastInstance cause), link, member =>
    (Carries.wraps (.exhausted service attempts lastInstance cause)).chain member
      (carries_of_mem_causes cause link)
  | .routing (.notRetryable service attempts cause), link, member =>
    (Carries.wraps (.notRetryable service attempts cause)).chain member
      (carries_of_mem_causes cause link)

/-- What is found to be of a type carries something of it, or is of it. -/
theorem exists_carried (ofType : Failure → Bool) (failure : Failure)
    (found : failure.hasType ofType = true) :
    ∃ link, Relation.ReflTransGen Carries failure link ∧ ofType link = true := by
  obtain ⟨link, member, right⟩ := List.any_eq_true.mp found
  obtain rfl | below := List.mem_cons.mp member
  · exact ⟨link, .refl, right⟩
  · exact ⟨link, carries_of_mem_causes failure link below, right⟩

end Failure

namespace RetryPolicy

open Relation

/-- What wrapping does to the verdict of a policy that goes by a type. In a failure of an
application or a routing error, and in any number of these, a failure is tried again as it was.
In a transport failure it is exactly if transport failures are of the type, or if the verdict came
from its source. So the standard policy, and one that goes by transport failures, try again
whatever carries a failure that they try again. Nothing is tried again that neither is of the type
nor carries anything of it.

The search looks at a failure and then at its sources, so it goes through whatever gives the
failure inside as its source. A transport failure gives the source of what it is made of
instead, and passes that one over. -/
theorem wrapping_exact (policy : RetryPolicy) (name : String) :
    (∀ ofType : Failure → Bool,
      let retries := (policy.retryingOnType ofType).retriesError
      (∀ outer inner, ReflTransGen Failure.Wraps outer inner →
        retries inner = true → retries outer = true) ∧
      (∀ inner, retries (.transported inner) = true ↔
        ofType (.transported inner) = true ∨
          ∃ source, inner.source? = some source ∧ retries source = true) ∧
      ∀ failure, retries failure = true →
        ∃ link, ReflTransGen Failure.Carries failure link ∧ ofType link = true) ∧
    (∀ outer inner, ReflTransGen Failure.Carries outer inner →
      ((policy.retryingOnKind .transport).retriesError inner = true →
        (policy.retryingOnKind .transport).retriesError outer = true) ∧
      ((named name).retriesError inner = true → (named name).retriesError outer = true)) ∧
    ∀ failure, (named name).retriesError failure = true →
      ∃ link, ReflTransGen Failure.Carries failure link ∧
        (link.kind = .transport ∨ link.kind = .timeout) := by
  refine ⟨fun ofType => ⟨?_, ?_, ?_⟩, fun outer inner within => ⟨?_, ?_⟩, ?_⟩
  · exact fun outer inner within => Failure.hasType_of_wraps ofType within
  · intro inner
    change (Failure.transported inner).hasType ofType = true ↔ _
    rw [Failure.hasType_eq, Bool.or_eq_true]
    exact or_congr_right (Option.any_eq_true ..)
  · exact Failure.exists_carried ofType
  · exact Failure.hasType_of_carries (·.kind == .transport) (fun _ => rfl) within
  · exact Failure.hasType_of_carries (fun link => link.kind == .transport || link.kind == .timeout)
      (fun _ => rfl) within
  · intro failure found
    obtain ⟨link, carried, right⟩ := Failure.exists_carried
      (fun link => link.kind == .transport || link.kind == .timeout) failure found
    exact ⟨link, carried, by simpa using right⟩

/-- A formatting failure within a failure of an application, of which a transport failure is made;
and a timeout within the same two, within the error that ends an invocation. -/
theorem wrapping_exact_nested :
    ((named "calls").retryingOnKind .formatting).retriesError
      (.applicationOver "failed" .formatting) = true ∧
    ((named "calls").retryingOnKind .formatting).retriesError
      (.transported (.applicationOver "failed" .formatting)) = true ∧
    (named "calls").retriesError (.routing (.exhausted "order" 3 "10.0.0.1:80"
      (.transported (.applicationOver "failed" .timeout)))) = true ∧
    ∃ link, ReflTransGen Failure.Carries (.transported (.applicationOver "failed" .timeout)) link ∧
      (link.kind = .transport ∨ link.kind = .timeout) := by
  obtain ⟨types, carried, sound⟩ := wrapping_exact (named "calls") "calls"
  obtain ⟨kept, replaced, -⟩ := types (·.kind == .formatting)
  have within : ReflTransGen Failure.Carries (.routing (.exhausted "order" 3 "10.0.0.1:80"
      (.transported (.applicationOver "failed" .timeout)))) .timeout :=
    .head (.wraps (.exhausted ..)) (.head (.transported _) (.single (.wraps (.application ..))))
  exact ⟨kept _ _ (.single (.application ..)) (by decide),
    (replaced _).mpr (.inr ⟨_, rfl, by decide⟩), (carried _ _ within).2 (by decide),
    sound _ (by decide)⟩

/-- A policy that goes by formatting failures tries one again, but not a transport failure that is
made of it. -/
theorem exists_hidden :
    ∃ inner : Failure,
      ((named "calls").retryingOnKind .formatting).retriesError inner = true ∧
      ((named "calls").retryingOnKind .formatting).retriesError (.transported inner) = false :=
  ⟨.formatting, by decide, by decide⟩

end RetryPolicy

end CallRouting
