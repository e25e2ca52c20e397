import CallRouting.Proofs.Addresses
import CallRouting.Proofs.UriText

/-!
# Authorities made of an ip and a port

The texts of IPv4 and IPv6 addresses, and what an authority says that is such a text, a colon and
a port. An authority can hold at most one colon outside of brackets, so an IPv6 address has to
stand in them: with brackets around it, or as an IPv4 address, it is an authority again, with the
same host and port; without brackets it never is one, as an IPv6 address has at least two colons.
-/

namespace CallRouting

/-- A byte in decimal digits, without zeros in front. -/
def SpellsByte (text : List Char) : Prop := ∃ byte < 256, text = Nat.toDigits 10 byte

/-- An IPv4 address: four bytes with dots between them. -/
def SpellsIpv4 (text : List Char) : Prop :=
  ∃ a b c d, (SpellsByte a ∧ SpellsByte b ∧ SpellsByte c ∧ SpellsByte d) ∧
    text = a ++ '.' :: (b ++ '.' :: (c ++ '.' :: d))

/-- Sixteen bits in one to four hexadecimal digits. -/
def SpellsGroup (text : List Char) : Prop :=
  1 ≤ text.length ∧ text.length ≤ 4 ∧ ∀ c ∈ text, c.isHexDigit = true

/-- A number of groups of sixteen bits with colons between them. The last two of them may be an
IPv4 address where that is allowed. -/
inductive SpellsGroups (dotted : Bool) : Nat → List Char → Prop
  | last {group} (spells : SpellsGroup group) : SpellsGroups dotted 1 group
  | ipv4 {text} (allowed : dotted = true) (spells : SpellsIpv4 text) : SpellsGroups dotted 2 text
  | more {n group rest} (spells : SpellsGroup group) (further : SpellsGroups dotted n rest) :
    SpellsGroups dotted (n + 1) (group ++ ':' :: rest)

/-- An IPv6 address: eight groups, or fewer with `::` in place of those that are left out. -/
inductive SpellsIpv6 : List Char → Prop
  | full {text} (groups : SpellsGroups true 8 text) : SpellsIpv6 text
  | short {m n front back} (few : m + n ≤ 7)
    (before : m = 0 ∧ front = [] ∨ SpellsGroups false m front)
    (after : n = 0 ∧ back = [] ∨ SpellsGroups true n back) :
    SpellsIpv6 (front ++ ':' :: ':' :: back)

/-- What an ip is spelled with. -/
def isIpChar (c : Char) : Bool := Uri.isAlphanumeric c || c = '.' || c = ':'

/-- A hexadecimal digit may stand in an ip and is no colon: it is a digit or a letter in one of
two ranges. -/
theorem isIpChar_of_isHexDigit (c : Char) (hex : c.isHexDigit = true) :
    isIpChar c = true ∧ c ≠ ':' := by
  refine ⟨?_, ?_⟩
  · have lower : 'f'.val ≤ 'z'.val := by decide
    have upper : 'F'.val ≤ 'Z'.val := by decide
    simp only [Char.isHexDigit, Bool.or_eq_true, Bool.and_eq_true, decide_eq_true_eq] at hex
    simp only [isIpChar, Uri.isAlphanumeric, Char.isAlpha, Char.isUpper, Char.isLower,
      Bool.or_eq_true, Bool.and_eq_true, decide_eq_true_eq]
    obtain (digit | ⟨least, most⟩) | ⟨least, most⟩ := hex
    · exact .inl (.inl (.inr digit))
    · exact .inl (.inl (.inl (.inr ⟨least, UInt32.le_trans most lower⟩)))
    · exact .inl (.inl (.inl (.inl ⟨least, UInt32.le_trans most upper⟩)))
  · rintro rfl
    revert hex
    decide

/-- The digits of a decimal number can stand in an ip, and none of them is a colon. -/
theorem isIpChar_of_mem_toDigits (number : Nat) (c : Char)
    (member : c ∈ Nat.toDigits 10 number) : isIpChar c = true ∧ c ≠ ':' := by
  have digit := Nat.isDigit_of_mem_toDigits (by decide) (by decide) member
  exact isIpChar_of_isHexDigit c (by simp [Char.isHexDigit, digit])

/-- A mark that may not stand in an ip is not in it. -/
theorem notMem_of_chars {ip : List Char} {mark : Char} (chars : ∀ c ∈ ip, isIpChar c = true)
    (special : isIpChar mark = false) : mark ∉ ip := by
  intro member
  rw [chars mark member] at special
  cases special

/-- An IPv4 address has no colons. -/
theorem SpellsIpv4.chars {text : List Char} (spells : SpellsIpv4 text) :
    ∀ c ∈ text, isIpChar c = true ∧ c ≠ ':' := by
  have dot : isIpChar '.' = true ∧ '.' ≠ ':' := by decide
  obtain ⟨_, _, _, _, ⟨⟨a, -, rfl⟩, ⟨b, -, rfl⟩, ⟨c, -, rfl⟩, ⟨d, -, rfl⟩⟩, rfl⟩ := spells
  simp only [List.forall_mem_append, List.forall_mem_cons]
  exact ⟨isIpChar_of_mem_toDigits a, dot, isIpChar_of_mem_toDigits b, dot,
    isIpChar_of_mem_toDigits c, dot, isIpChar_of_mem_toDigits d⟩

/-- A text of characters of an ip without colons counts no colon. -/
theorem count_colon (text : List Char) (chars : ∀ c ∈ text, isIpChar c = true ∧ c ≠ ':') :
    text.count ':' = 0 :=
  List.count_eq_zero.mpr fun member => (chars ':' member).2 rfl

/-- Groups have a colon between each two of them, where an IPv4 address stands for two without
one.

By induction on the groups; so eight of them have seven colons, or six with an IPv4 address at the
end. -/
theorem SpellsGroups.colons {dotted : Bool} {n : Nat} {text : List Char}
    (groups : SpellsGroups dotted n text) :
    (∀ c ∈ text, isIpChar c = true) ∧ n ≤ text.count ':' + 2 ∧ text.count ':' + 1 ≤ n := by
  induction groups with
  | last spells =>
    have chars := fun c member => isIpChar_of_isHexDigit c (spells.2.2 c member)
    have none := count_colon _ chars
    exact ⟨fun c member => (chars c member).1, by omega, by omega⟩
  | ipv4 allowed spells =>
    have none := count_colon _ spells.chars
    exact ⟨fun c member => (spells.chars c member).1, by omega, by omega⟩
  | @more n group rest spells further inductionHypothesis =>
    obtain ⟨others, least, most⟩ := inductionHypothesis
    have chars := fun c member => isIpChar_of_isHexDigit c (spells.2.2 c member)
    have none := count_colon _ chars
    refine ⟨?_, ?_, ?_⟩
    · simp only [List.forall_mem_append, List.forall_mem_cons]
      exact ⟨fun c member => (chars c member).1, by decide, others⟩
    all_goals
      rw [List.count_append, List.count_cons_self, none]
      omega

/-- The part of an IPv6 address on one side of `::`. -/
theorem colons_beside {dotted : Bool} {n : Nat} {text : List Char}
    (side : n = 0 ∧ text = [] ∨ SpellsGroups dotted n text) :
    (∀ c ∈ text, isIpChar c = true) ∧ text.count ':' ≤ n - 1 := by
  obtain ⟨rfl, rfl⟩ | groups := side
  · simp
  · obtain ⟨chars, -, most⟩ := groups.colons
    exact ⟨chars, by omega⟩

/-- An IPv6 address has at least two colons and at most eight.

In full it has those of its groups; where zeros are left out, two colons stand for them, and at
most seven groups are on both sides. -/
theorem SpellsIpv6.colons {text : List Char} (spells : SpellsIpv6 text) :
    (∀ c ∈ text, isIpChar c = true) ∧ 2 ≤ text.count ':' ∧ text.count ':' ≤ 8 := by
  cases spells with
  | full groups =>
    obtain ⟨chars, least, most⟩ := groups.colons
    exact ⟨chars, by omega, by omega⟩
  | short few before after =>
    obtain ⟨chars, most⟩ := colons_beside before
    obtain ⟨chars', most'⟩ := colons_beside after
    refine ⟨?_, ?_, ?_⟩
    · simp only [List.forall_mem_append, List.forall_mem_cons]
      exact ⟨chars, by decide, by decide, chars'⟩
    all_goals
      rw [List.count_append, List.count_cons_self, List.count_cons_self]
      omega

/-- An ip, a colon and a port. -/
def atPort (ip : List Char) (port : UInt16) : List Char := ip ++ ':' :: Nat.toDigits 10 port.toNat

/-- What cannot stand in an ip stands in an ip with a port only if it stands in the ip. -/
theorem mem_of_mem_atPort {ip : List Char} {port : UInt16} {mark : Char}
    (special : isIpChar mark = false) (member : mark ∈ atPort ip port) : mark ∈ ip := by
  simp only [atPort, List.mem_append, List.mem_cons] at member
  obtain member | rfl | member := member
  · exact member
  · exact absurd special (by decide)
  · rw [(isIpChar_of_mem_toDigits _ _ member).1] at special
    cases special

namespace Uri

/-- A character of an ip other than a colon leaves a scan as it is. -/
theorem AuthorityScan.step_ipChar (scan : AuthorityScan) (c : Char) (char : isIpChar c = true)
    (other : c ≠ ':') (calm : scan.endsWithAt = false) : scan.step c = some scan := by
  have unlike (mark : Char) (special : isIpChar mark = false) : c ≠ mark := by
    rintro rfl
    rw [char] at special
    cases special
  have allowed : isAuthorityChar c = true := by
    simp only [isIpChar, Bool.or_eq_true, decide_eq_true_eq] at char
    obtain (letter | rfl) | colon := char
    · simp [isAuthorityChar, letter]
    · decide
    · exact absurd colon other
  simp [AuthorityScan.step, unlike '@' (by decide), unlike '[' (by decide),
    unlike ']' (by decide), unlike '%' (by decide), allowed, ← calm]

/-- In an ip the scan of an authority counts colons, and it breaks off at the ninth. -/
theorem AuthorityScan.foldlM_ip (scan : AuthorityScan) (text : List Char)
    (chars : ∀ c ∈ text, isIpChar c = true) (within : scan.colons ≤ 8)
    (calm : scan.endsWithAt = false) :
    text.foldlM step scan =
      if scan.colons + text.count ':' ≤ 8 then
        some { scan with colons := scan.colons + text.count ':' }
      else none := by
  induction text generalizing scan with
  | nil => simp [within]
  | cons c rest inductionHypothesis =>
    obtain ⟨char, others⟩ := List.forall_mem_cons.mp chars
    -- Only a colon changes the scan, and only while there are fewer than eight.
    by_cases other : c = ':'
    · subst other
      rw [List.foldlM_cons, List.count_cons_self]
      by_cases further : scan.colons < 8
      · have taken : scan.step ':' = some { scan with colons := scan.colons + 1 } := by
          simp [step, further, calm]
        rw [taken, Option.bind_eq_bind, Option.bind_some,
          inductionHypothesis { scan with colons := scan.colons + 1 } others further calm]
        simp only [Nat.add_assoc, Nat.add_comm 1]
      · have refused : scan.step ':' = none := by simp [step, further]
        rw [refused, if_neg (by omega)]
        rfl
    · rw [List.foldlM_cons, step_ipChar scan c char other calm, List.count_cons_of_ne other,
        Option.bind_eq_bind, Option.bind_some]
      exact inductionHypothesis scan others within calm

/-- A port adds one colon. -/
theorem AuthorityScan.foldlM_port (scan : AuthorityScan) (port : UInt16)
    (within : scan.colons ≤ 8) (calm : scan.endsWithAt = false) :
    (':' :: Nat.toDigits 10 port.toNat).foldlM step scan =
      if scan.colons + 1 ≤ 8 then some { scan with colons := scan.colons + 1 } else none := by
  have digits := isIpChar_of_mem_toDigits port.toNat
  have chars : ∀ c ∈ ':' :: Nat.toDigits 10 port.toNat, isIpChar c = true :=
    List.forall_mem_cons.mpr ⟨by decide, fun c member => (digits c member).1⟩
  rw [foldlM_ip scan _ chars within calm, List.count_cons_self, count_colon _ digits]

/-- An ip as it is makes an authority with a port exactly if it has no colons. -/
theorem isAuthority_atPort (ip : List Char) (port : UInt16)
    (chars : ∀ c ∈ ip, isIpChar c = true) :
    isAuthority (atPort ip port) = true ↔ ip.count ':' = 0 := by
  unfold isAuthority atPort
  rw [List.foldlM_append, AuthorityScan.foldlM_ip {} ip chars (by decide) rfl]
  -- The port brings a colon of its own, so at the end there is one only if the ip has none.
  by_cases few : ip.count ':' ≤ 8
  · simp only [Nat.zero_add, few, if_true, Option.bind_eq_bind, Option.bind_some]
    rw [AuthorityScan.foldlM_port _ port few rfl]
    by_cases fewer : ip.count ':' + 1 ≤ 8
    · simp [fewer, AuthorityScan.complete]
    · simp [fewer]
      omega
  · simp [few]
    omega

/-- In brackets an ip may have up to eight colons: the scan counts them up to the closing bracket,
and then the one of the port anew. -/
theorem isAuthority_bracketed (ip : List Char) (port : UInt16)
    (chars : ∀ c ∈ ip, isIpChar c = true) (few : ip.count ':' ≤ 8) :
    isAuthority (atPort ('[' :: (ip ++ [']'])) port) = true := by
  have within := AuthorityScan.foldlM_ip { opened := true } ip chars (by decide) rfl
  have behind :=
    AuthorityScan.foldlM_port { opened := true, closed := true } port (by decide) rfl
  simp only [Nat.zero_add, few, if_true] at within behind
  have opened : AuthorityScan.step {} '[' = some { opened := true } := rfl
  have closed (colons : Nat) : AuthorityScan.step { colons, opened := true } ']' =
      some { opened := true, closed := true } := rfl
  have front : ('[' :: (ip ++ [']'])).foldlM AuthorityScan.step {} =
      some { opened := true, closed := true } := by
    simp only [List.foldlM_cons, List.foldlM_append, opened, closed, within, List.foldlM_nil,
      Option.bind_eq_bind, Option.bind_some, Option.pure_def]
  unfold isAuthority atPort
  rw [List.foldlM_append, front, Option.bind_eq_bind, Option.bind_some, behind]
  rfl

/-- Nothing in an ip with a port ends an authority. -/
theorem endsAuthority_atPort (ip : List Char) (port : UInt16)
    (chars : ∀ c ∈ ip, isIpChar c = true) : ∀ c ∈ atPort ip port, endsAuthority c = false := by
  intro c member
  by_contra ends
  have special : isIpChar c = false := by
    simp only [endsAuthority, Bool.not_eq_false, Bool.or_eq_true, decide_eq_true_eq] at ends
    obtain (rfl | rfl) | rfl := ends <;> rfl
  exact notMem_of_chars chars special (mem_of_mem_atPort special member)

/-- The host of an authority: what follows the last `@`, up to the closing bracket if it starts
with an opening one, and else up to the first colon. -/
def host (uri : Uri) : String :=
  let shown := (uri.authority.toList.reverse.takeWhile (· ≠ '@')).reverse
  if shown.head? = some '[' then String.ofList (shown.takeWhile (· ≠ ']') ++ [']'])
  else String.ofList (shown.takeWhile (· ≠ ':'))

/-- The port behind the last colon of an authority. -/
def port? (uri : Uri) : Option UInt16 :=
  match splitLastColon uri.authority.toList with
  | some (_, text) => (readPortText text).toOption
  | none => none

/-- The port is read off what stands behind the ip. -/
theorem port?_atPort (uri : Uri) (ip : List Char) (port : UInt16)
    (shown : uri.authority.toList = atPort ip port) : uri.port? = some port := by
  have spells := spellsPort_digits port
  have split' : splitLastColon (atPort ip port) = some (ip, Nat.toDigits 10 port.toNat) :=
    (splitLastColon_eq_some_iff _ _ _).mpr ⟨rfl, spells.colon_notMem⟩
  unfold port?
  rw [shown, split']
  simp only [(readPortText_eq_ok_iff _ port).mpr spells]
  rfl

/-- Without an `@` an authority starts with its host. -/
theorem host_eq (uri : Uri) (anonymous : '@' ∉ uri.authority.toList) :
    uri.host =
      if uri.authority.toList.head? = some '[' then
        String.ofList (uri.authority.toList.takeWhile (· ≠ ']') ++ [']'])
      else String.ofList (uri.authority.toList.takeWhile (· ≠ ':')) := by
  have whole : uri.authority.toList.reverse.takeWhile (· ≠ '@') =
      uri.authority.toList.reverse := by
    rw [List.takeWhile_eq_self_iff]
    intro c member
    simpa using fun same : c = '@' => anonymous (same ▸ List.mem_reverse.mp member)
  unfold host
  rw [whole, List.reverse_reverse]

/-- An ip without colons is the host. -/
theorem host_atPort (uri : Uri) (ip : List Char) (port : UInt16)
    (shown : uri.authority.toList = atPort ip port)
    (chars : ∀ c ∈ ip, isIpChar c = true ∧ c ≠ ':') : uri.host = String.ofList ip := by
  have absent (mark : Char) (special : isIpChar mark = false) : mark ∉ atPort ip port :=
    fun member => notMem_of_chars (fun c inside => (chars c inside).1) special
      (mem_of_mem_atPort special member)
  obtain ⟨front, -⟩ := (cut_iff (· ≠ ':') (atPort ip port) ip
    (':' :: Nat.toDigits 10 port.toNat)).mpr
    ⟨rfl, fun c member => by simpa using (chars c member).2, by simp⟩
  have unbracketed : (atPort ip port).head? ≠ some '[' :=
    fun head => absent '[' (by decide) (List.mem_of_head? head)
  rw [host_eq uri (by rw [shown]; exact absent '@' (by decide)), shown, if_neg unbracketed, front]

/-- An ip in brackets is the host, with its brackets. -/
theorem host_bracketed (uri : Uri) (ip : List Char) (port : UInt16)
    (shown : uri.authority.toList = atPort ('[' :: (ip ++ [']'])) port)
    (chars : ∀ c ∈ ip, isIpChar c = true) : uri.host = String.ofList ('[' :: (ip ++ [']'])) := by
  -- (ip ++ [']'])) port := by :: Nothing stands in front of the host, since an ip and a port have
  -- no `@` in them.
  have anonymous : '@' ∉ atPort ('[' :: (ip ++ [']'])) port := by
    intro member
    have inside := mem_of_mem_atPort (by decide) member
    simp only [List.mem_cons, List.mem_append, List.not_mem_nil, or_false] at inside
    obtain same | member | same := inside
    · exact absurd same (by decide)
    · exact notMem_of_chars chars (by decide) member
    · exact absurd same (by decide)
  obtain ⟨front, -⟩ := (cut_iff (· ≠ ']') (atPort ('[' :: (ip ++ [']'])) port) ('[' :: ip)
    (']' :: ':' :: Nat.toDigits 10 port.toNat)).mpr (by
      refine ⟨by simp [atPort], ?_, by simp⟩
      intro c member
      obtain rfl | member := List.mem_cons.mp member
      · decide
      · simpa using fun same : c = ']' => notMem_of_chars chars (by decide) (same ▸ member))
  rw [host_eq uri (by rw [shown]; exact anonymous), shown, front]
  rfl

end Uri

end CallRouting
