import CallRouting.Directory.Settings
import CallRouting.Proofs.Snapshots

/-!
# Addresses in settings

An address is an ip, a colon and a port. The port stands behind the last colon, so an ip may
hold colons, or be empty. A port is spelled in decimal digits, with as many zeros in front as
one likes, and a plus sign may stand before them.

Each address that an instance gives of itself by its ip is such a text, and is read back to the
ip and the port of the instance.
-/

namespace CallRouting

/-- Whether a text spells a port: decimal digits with the value of the port, maybe behind a plus
sign. -/
def SpellsPort (text : List Char) (port : UInt16) : Prop :=
  ∃ digits, (text = digits ∨ text = '+' :: digits) ∧ digits ≠ [] ∧
    (∀ c ∈ digits, c.isDigit = true) ∧ Nat.ofDigitChars 10 digits 0 = port.toNat

/-- The digits of a number never make it smaller. -/
theorem le_ofDigitChars (digits : List Char) (value : Nat) :
    value ≤ Nat.ofDigitChars 10 digits value := by
  induction digits generalizing value with
  | nil => exact Nat.le_refl value
  | cons c rest inductionHypothesis =>
    rw [Nat.ofDigitChars_cons]
    have further := inductionHypothesis (10 * value + (c.toNat - '0'.toNat))
    omega

/-- Digits are read as long as they are digits and their value is one of 16 bits. A value that
is too large stays so, whatever follows. -/
theorem readPortDigits_eq_ok_iff (digits : List Char) (value result : Nat)
    (small : value ≤ 65535) :
    readPortDigits value digits = .ok result ↔
      (∀ c ∈ digits, c.isDigit = true) ∧ Nat.ofDigitChars 10 digits value = result ∧
        result ≤ 65535 := by
  induction digits generalizing value with
  | nil =>
    simp only [readPortDigits, Except.ok.injEq, Nat.ofDigitChars_nil]
    constructor
    · rintro rfl
      exact ⟨by simp, rfl, small⟩
    · rintro ⟨-, same, -⟩
      exact same
  | cons c rest inductionHypothesis =>
    simp only [readPortDigits, List.forall_mem_cons, Nat.ofDigitChars_cons]
    cases digit : c.isDigit with
    | false => simp
    | true =>
      by_cases large : 65535 < 10 * value + (c.toNat - '0'.toNat)
      -- Further digits do not make the value smaller.
      · have further := le_ofDigitChars rest (10 * value + (c.toNat - '0'.toNat))
        simp only [Bool.not_true, Bool.false_eq_true, if_false, large, if_true, reduceCtorEq,
          true_and, false_iff]
        rintro ⟨-, same, bound⟩
        omega
      · simp only [Bool.not_true, Bool.false_eq_true, if_false, large, true_and]
        exact inductionHypothesis _ (Nat.not_lt.mp large)

/-- A port is read from the decimal digits of it, whatever zeros stand in front, and from nothing
else.

The value that was read fits into 16 bits, so it is that of the port and not only equal to it
modulo 2 ^ 16. -/
theorem readPortDigits_eq_ok_port_iff (digits : List Char) (port : UInt16) :
    UInt16.ofNat <$> readPortDigits 0 digits = .ok port ↔
      (∀ c ∈ digits, c.isDigit = true) ∧ Nat.ofDigitChars 10 digits 0 = port.toNat := by
  have bound := port.toNat_lt
  constructor
  · intro read
    cases number : readPortDigits 0 digits with
    | error cause =>
      rw [number] at read
      cases read
    | ok value =>
      rw [number] at read
      obtain ⟨digit, same, small⟩ :=
        (readPortDigits_eq_ok_iff digits 0 value (by decide)).mp number
      obtain rfl : UInt16.ofNat value = port := Except.ok.inj read
      have fits : value < UInt16.size := Nat.lt_succ_of_le small
      exact ⟨digit, by rw [same, UInt16.toNat_ofNat_of_lt' fits]⟩
  · rintro ⟨digit, same⟩
    have number := (readPortDigits_eq_ok_iff digits 0 port.toNat (by decide)).mpr
      ⟨digit, same, by omega⟩
    rw [number]
    exact congrArg Except.ok UInt16.ofNat_toNat

/-- Behind a plus sign there have to be digits. -/
theorem readPortText_plus (digits : List Char) (nonempty : digits ≠ []) :
    readPortText ('+' :: digits) = UInt16.ofNat <$> readPortDigits 0 digits := by
  cases digits with
  | nil => exact absurd rfl nonempty
  | cons c rest => rfl

/-- Without a plus sign all has to be digits. -/
theorem readPortText_digits (digits : List Char) (nonempty : digits ≠ [])
    (unsigned : digits.head? ≠ some '+') :
    readPortText digits = UInt16.ofNat <$> readPortDigits 0 digits := by
  cases digits with
  | nil => exact absurd rfl nonempty
  | cons c rest =>
    have other : c ≠ '+' := fun same => unsigned (congrArg some same)
    unfold readPortText
    split
    · contradiction
    · rename_i plus
      exact absurd (List.cons.inj plus).1 other
    · rename_i plus
      exact absurd (List.cons.inj plus).1 other
    · rfl

/-- A text is read as a port exactly if it spells that port: digits of its value, at least one,
with at most one plus sign in front of them. -/
theorem readPortText_eq_ok_iff (text : List Char) (port : UInt16) :
    readPortText text = .ok port ↔ SpellsPort text port := by
  constructor
  · intro read
    by_cases empty : text = []
    · subst empty
      cases read
    by_cases signed : text.head? = some '+'
    · obtain ⟨digits, rfl⟩ := List.head?_eq_some_iff.mp signed
      have nonempty : digits ≠ [] := by
        rintro rfl
        cases read
      rw [readPortText_plus digits nonempty, readPortDigits_eq_ok_port_iff] at read
      exact ⟨digits, .inr rfl, nonempty, read⟩
    · rw [readPortText_digits text empty signed, readPortDigits_eq_ok_port_iff] at read
      exact ⟨text, .inl rfl, empty, read⟩
  · rintro ⟨digits, rfl | rfl, nonempty, read⟩
    -- A sign is no digit, so digits alone are not taken for signed ones.
    · have unsigned : text.head? ≠ some '+' := by
        intro signed
        exact absurd (read.1 '+' (List.mem_of_head? signed)) (by decide)
      rw [readPortText_digits text nonempty unsigned, readPortDigits_eq_ok_port_iff]
      exact read
    · rw [readPortText_plus digits nonempty, readPortDigits_eq_ok_port_iff]
      exact read

/-- What spells a port holds no colon. -/
theorem SpellsPort.colon_notMem {text : List Char} {port : UInt16}
    (spells : SpellsPort text port) : ':' ∉ text := by
  obtain ⟨digits, rfl | rfl, -, digit, -⟩ := spells
  · intro member
    exact absurd (digit ':' member) (by decide)
  · intro member
    have later : ':' ∈ digits := List.mem_of_ne_of_mem (by decide) member
    exact absurd (digit ':' later) (by decide)

/-- The digits of a port spell it. -/
theorem spellsPort_digits (port : UInt16) : SpellsPort (Nat.toDigits 10 port.toNat) port := by
  refine ⟨_, .inl rfl, Nat.toDigits_ne_nil, ?_, Nat.ofDigitChars_ten_toDigits⟩
  intro c member
  exact Nat.isDigit_of_mem_toDigits (by decide) (by decide) member

/-- A text is not split just if it has no colon. -/
theorem splitLastColon_eq_none_iff (text : List Char) :
    splitLastColon text = none ↔ ':' ∉ text := by
  induction text with
  | nil => simp [splitLastColon]
  | cons c rest inductionHypothesis =>
    simp only [splitLastColon, List.mem_cons, not_or]
    cases found : splitLastColon rest with
    | some halves =>
      have colon : ':' ∈ rest := by
        by_contra absent
        rw [inductionHypothesis.mpr absent] at found
        cases found
      simp [colon]
    | none =>
      have absent := inductionHypothesis.mp found
      by_cases colon : c = ':'
      · simp [colon]
      · simp [colon, absent, Ne.symm colon]

/-- A text is split at its last colon. -/
theorem splitLastColon_eq_some_iff (text before after : List Char) :
    splitLastColon text = some (before, after) ↔
      text = before ++ ':' :: after ∧ ':' ∉ after := by
  -- The text is walked from the front: a colon counts only if none comes behind it.
  have parts (before after : List Char) (split : splitLastColon text = some (before, after)) :
      text = before ++ ':' :: after ∧ ':' ∉ after := by
    induction text generalizing before with
    | nil => cases split
    | cons c rest inductionHypothesis =>
      simp only [splitLastColon] at split
      cases found : splitLastColon rest with
      | some halves =>
        simp only [found, Option.some.injEq, Prod.mk.injEq] at split
        obtain ⟨rfl, rfl⟩ := split
        obtain ⟨whole, last⟩ := inductionHypothesis halves.1 found
        exact ⟨congrArg (c :: ·) whole, last⟩
      | none =>
        simp only [found, Option.ite_none_right_eq_some, Option.some.injEq, Prod.mk.injEq] at split
        obtain ⟨rfl, rfl, rfl⟩ := split
        exact ⟨rfl, (splitLastColon_eq_none_iff rest).mp found⟩
  constructor
  · exact parts before after
  · rintro ⟨rfl, last⟩
    cases found : splitLastColon (before ++ ':' :: after) with
    | none => exact absurd (by simp) ((splitLastColon_eq_none_iff _).mp found)
    | some halves =>
      obtain ⟨whole, last'⟩ := parts halves.1 halves.2 found
      -- There is just one way to split a text so that no colon is left behind.
      obtain ⟨same, same'⟩ := append_cons_inj_of_last last last' whole
      rw [same, same']

/-- An address is read exactly if it is an ip, a colon and a port, and to these.

Colons in the ip do no harm: the port is what stands behind the last one, and it has none itself.
-/
theorem Directory.readAddress_eq_ok_iff (service address : String) (x : Instance) :
    readAddress service address = .ok x ↔
      ∃ ip text port, address = ip ++ ":" ++ String.ofList text ∧ SpellsPort text port ∧
        x = .ofAddress service ip port := by
  unfold readAddress
  constructor
  · intro read
    split at read
    · cases read
    · rename_i before after split'
      obtain ⟨whole, -⟩ := (splitLastColon_eq_some_iff _ _ _).mp split'
      split at read
      · rename_i port spelled
        refine ⟨String.ofList before, after, port, ?_, (readPortText_eq_ok_iff _ _).mp spelled,
          (Except.ok.inj read).symm⟩
        apply String.toList_inj.mp
        simpa using whole
      · cases read
  · rintro ⟨ip, text, port, rfl, spells, rfl⟩
    have split' : splitLastColon (ip ++ ":" ++ String.ofList text).toList =
        some (ip.toList, text) := by
      rw [splitLastColon_eq_some_iff]
      exact ⟨by simp, spells.colon_notMem⟩
    simp only [split', (readPortText_eq_ok_iff text port).mpr spells, String.ofList_toList]

end CallRouting
