/-
Module: ReviewGroups.Proofs.WrittenLocation
Purpose: Host and port, as an address keeps them, are still the same when they are written and read
  once more: at most the letters of escapes in the host become small. A host is a name, a dotted
  number or a bracketed one; each kind is recognised again from its characters, and the default port
  is one that need not be written.
Trusted boundary: none
Main exports: IsHostName, normalizeHost_cases, mem_of_mem_normalizeHost, writtenHost, IsSameHost,
  isSameHost_of_normalizeHost, Text.readWhole_toString, writtenPort, or_default_of_normalizePort
-/
import ReviewGroups.Proofs.HostName
import ReviewGroups.Proofs.TrimmedText
import ReviewGroups.Proofs.WrittenText

namespace ReviewGroups

namespace Text

/-! ### Whole numbers that are written -/

private theorem digitValue?_of_isDigit {c : Char} (digit : c.isDigit = true) :
    digitValue? c = some (c.toNat - '0'.toNat) := by
  have all : ∀ c : Char, c.toNat < 0x80 → c.isDigit = true →
      digitValue? c = some (c.toNat - '0'.toNat) :=
    forall_ascii (by decide +kernel)
  have small : c.toNat < 0x80 := by
    apply Url.Percent.toNat_lt_of_isUnreserved
    simp [Url.Percent.isUnreserved, Char.isAlphanum, digit]
  exact all c small digit

private theorem all_isDigit_toDigits (n : Nat) : (Nat.toDigits 10 n).all isDigit = true := by
  rw [List.all_eq_true]
  intro c present
  have digit := Nat.isDigit_of_mem_toDigits (by decide) (by decide : 10 ≤ 10) present
  simp [isDigit, digitValue?_of_isDigit digit]

/-- The digits of a number are read as that number, unless they are too many. -/
theorem readWhole_toDigits {n : Nat} {m : Int}
    (read : readWhole (String.ofList (Nat.toDigits 10 n)) = .ok m) : m = n := by
  have notEmpty : String.ofList (Nat.toDigits 10 n) ≠ "" := by
    simp [Nat.toDigits_ne_nil]
  have values : (String.ofList (Nat.toDigits 10 n)).toList.map digitValue? =
      ((Nat.toDigits 10 n).map fun c => c.toNat - '0'.toNat).map some := by
    rw [String.toList_ofList, List.map_map]
    apply List.map_congr_left
    intro c present
    exact digitValue?_of_isDigit (Nat.isDigit_of_mem_toDigits (by decide) (by decide) present)
  rw [readWhole_of_values notEmpty values] at read
  split at read
  next => cases read
  next =>
    cases read
    have whole : natOfDigits ((Nat.toDigits 10 n).map fun c => c.toNat - '0'.toNat) =
        Nat.ofDigitChars 10 (Nat.toDigits 10 n) 0 := by
      unfold natOfDigits Nat.ofDigitChars
      rw [List.foldl_map]
    rw [whole, Nat.ofDigitChars_toDigits (by decide) (by decide)]

/-- Behind a minus sign digits are read as the opposite number. -/
theorem readWhole_minus {cs : List Char} (digits : cs.all isDigit = true) :
    readWhole (String.ofList ('-' :: cs)) = (readWhole (String.ofList cs)).map (- ·) := by
  have kept : ∀ c ∈ '-' :: cs, isBlank c = false := by
    rw [List.forall_mem_cons]
    refine ⟨by decide, fun c present => ?_⟩
    exact not_isBlank_of_isDigit (List.all_eq_true.1 digits c present)
  have sign : splitSign ('-' :: cs) = (true, cs) := rfl
  unfold readWhole
  rw [String.toList_ofList, String.toList_ofList, trimList_eq_self kept, sign,
    splitSign_trimList digits]
  dsimp only
  split
  · rfl
  · split
    · rfl
    · split <;> rfl

/-- A whole number that is written is read as that number, unless it has too many digits. -/
theorem readWhole_toString {n m : Int}
    (read : readWhole (String.ofList (toString n).toList) = .ok m) : m = n := by
  rw [Json.toList_toString_int] at read
  by_cases negative : n < 0
  · rw [if_pos negative, List.singleton_append,
      readWhole_minus (all_isDigit_toDigits n.natAbs)] at read
    obtain ⟨magnitude, whole, rfl⟩ := Result.map_eq_ok_iff.1 read
    rw [readWhole_toDigits whole]
    omega
  · rw [if_neg negative, List.nil_append] at read
    rw [readWhole_toDigits read]
    omega

end Text

namespace Url

variable {host normal other : List Char}

/-! ### What hosts consist of -/

/-- A host that is a name: its characters stay as they are, and its letters are small unless there
are escapes. -/
structure IsHostName (host : List Char) : Prop where
  stays : ∀ c ∈ host, hostStays c = true
  small : '%' ∈ host ∨ ∀ c ∈ host, c.toLower = c

private theorem isPlain_of_looksDotted (dotted : looksDotted host = true) :
    ∀ c ∈ host, c = '.' ∨ Label.isPlain c = true := by
  intro c present
  have whole : List.intercalate ['.'] (Text.splitAt '.' host) = host := by
    rw [Text.splitAt_eq_splitOn]
    exact List.intercalate_splitOn '.'
  rw [← whole] at present
  rcases Text.mem_intercalate present with dot | ⟨run, isRun, inside⟩
  · exact .inl dot
  · have digits := List.all_eq_true.1 (Bool.and_eq_true_iff.1 dotted).2 run isRun
    have digit := List.all_eq_true.1 (Bool.and_eq_true_iff.1 digits).2 c inside
    exact .inr (by simp [Label.isPlain, digit])

/-- What is plain but for dots is a host name. -/
theorem isHostName_of_isPlain (plain : ∀ c ∈ host, c = '.' ∨ Label.isPlain c = true) :
    IsHostName host := by
  have all : ∀ c, Label.isPlain c = true → hostStays c = true ∧ c.toLower = c :=
    Label.forall_isPlain (by decide)
  have both : ∀ c ∈ host, hostStays c = true ∧ c.toLower = c := by
    intro c present
    rcases plain c present with rfl | isPlain
    · decide
    · exact all c isPlain
  exact ⟨fun c present => (both c present).1, .inr fun c present => (both c present).2⟩

/-- A text in small letters that is escaped is a host name. -/
theorem isHostName_encode (host : List Char) :
    IsHostName (Percent.encode hostStays (host.map Char.toLower)) := by
  constructor
  case stays =>
      intro c present
      rcases Percent.mem_encode present with ⟨-, stays⟩ | rfl | plain
      · exact stays
      · decide
      · exact Percent.stays_of_isUnreserved (by decide) plain
  case small =>
      by_cases escaped : '%' ∈ Percent.encode hostStays (host.map Char.toLower)
      · exact .inl escaped
      · rw [Percent.encode_eq_self_of_not_mem escaped]
        refine .inr fun c present => ?_
        obtain ⟨d, -, rfl⟩ := List.mem_map.1 present
        exact Text.toLower_toLower d

/-- There is a colon in a network address of groups. -/
theorem colon_mem_of_isIpv6 (network : isIpv6 host = true) : ':' ∈ host := by
  by_contra none
  have noMark : ∀ c ∈ host.takeWhile (· != '%'), (c == ':') = false := by
    intro c present
    rw [beq_eq_false_iff_ne]
    rintro rfl
    exact none ((List.takeWhile_sublist _).subset present)
  have single : Text.splitAt ':' (host.takeWhile (· != '%')) = [host.takeWhile (· != '%')] := by
    rw [Text.splitAt_eq_splitOn]
    exact List.splitOnP_eq_singleton noMark
  unfold isIpv6 at network
  have counted := (Bool.and_eq_true_iff.1 network).2
  rw [single] at counted
  split at counted
  · cases counted
  · simp at counted

private theorem exists_of_bracketed
    (bracketed : host.head? = some '[' ∧ host.getLast? = some ']' ∧ 2 ≤ host.length) :
    ∃ inner, host = '[' :: inner ++ [']'] := by
  obtain ⟨starts, ends, -⟩ := bracketed
  obtain ⟨rest, rfl⟩ := List.head?_eq_some_iff.1 starts
  obtain ⟨front, whole⟩ := List.getLast?_eq_some_iff.1 ends
  cases front with
  | nil => cases whole
  | cons first inner =>
      cases (List.cons.inj whole).1
      exact ⟨inner, whole⟩

/-- A host that an address keeps is a name, or the network address that was in brackets. -/
theorem normalizeHost_cases (normalized : normalizeHost host = .ok normal) :
    IsHostName normal ∨ isIpv6 normal = true ∧ host = '[' :: normal ++ [']'] := by
  unfold normalizeHost at normalized
  dsimp only at normalized
  split_ifs at normalized
  next =>
    cases normalized
    exact .inl ⟨by simp, by simp⟩
  next dotted _ =>
    cases normalized
    exact .inl (isHostName_of_isPlain (isPlain_of_looksDotted dotted))
  next bracketed network =>
    cases normalized
    obtain ⟨inner, rfl⟩ := exists_of_bracketed bracketed
    have same : (('[' :: inner ++ [']']).drop 1).dropLast = inner := by simp
    rw [same] at network ⊢
    exact .inr ⟨network, rfl⟩
  next =>
    cases normalized
    exact .inl (isHostName_encode host)
  next =>
    split at normalized
    next name written =>
      cases normalized
      exact .inl (isHostName_of_isPlain (HostName.isPlain_of_toAscii
        (fun c present => Text.toLower_of_mem_lowerFrom present) written))
    next => cases normalized

/-- A character that does not stay in a host name is in a host that an address keeps only if it was
there before. -/
theorem mem_of_mem_normalizeHost {mark : Char} (odd : hostStays mark = false)
    (normalized : normalizeHost host = .ok normal) (present : mark ∈ normal) : mark ∈ host := by
  rcases normalizeHost_cases normalized with name | ⟨-, rfl⟩
  · rw [name.stays mark present] at odd
    cases odd
  · simp [present]

/-! ### Hosts that are written once more -/

/-- A host as it is written in an address: in brackets if it has a colon. -/
def writtenHost (host : List Char) : List Char :=
  if ':' ∈ host then '[' :: host ++ [']'] else host

/-- A host is still the same: as it was, or with small letters if it has escapes. -/
def IsSameHost (host other : List Char) : Prop :=
  other = host ∨ '%' ∈ host ∧ other = host.map Char.toLower

/-- A host is still the same after it was still the same twice. -/
theorem IsSameHost.trans {last : List Char} (before : IsSameHost host normal)
    (after : IsSameHost normal last) : IsSameHost host last := by
  rcases before with rfl | ⟨escaped, rfl⟩
  · exact after
  · have twice : (host.map Char.toLower).map Char.toLower = host.map Char.toLower := by
      rw [List.map_map]
      exact List.map_congr_left fun c _ => Text.toLower_toLower c
    rcases after with rfl | ⟨-, rfl⟩
    · exact .inr ⟨escaped, rfl⟩
    · exact .inr ⟨escaped, twice⟩

private theorem hostStays_toLower {c : Char} (stays : hostStays c = true) :
    c.toNat < 0x80 ∧ hostStays c.toLower = true := by
  have small : c.toNat < 0x80 := by
    rcases Bool.or_eq_true_iff.1 stays with plain | mark
    · exact Percent.toNat_lt_of_isUnreserved plain
    · have all : "!$&'()*+,;=\"\x60\x7b\x7d%|\\".toList.all (·.toNat < 0x80) = true := by decide
      exact of_decide_eq_true (List.all_eq_true.1 all c (List.contains_iff_mem.1 mark))
  have all : ∀ c : Char, c.toNat < 0x80 → hostStays c = true → hostStays c.toLower = true :=
    Text.forall_ascii (by decide +kernel)
  exact ⟨small, all c small stays⟩

/-- A host name that is read once more is still the same. -/
theorem IsHostName.isSameHost (name : IsHostName host) (again : normalizeHost host = .ok other) :
    IsSameHost host other := by
  unfold normalizeHost at again
  dsimp only at again
  split_ifs at again
  next empty =>
    cases again
    exact .inl (List.isEmpty_iff.1 empty).symm
  next =>
    cases again
    exact .inl rfl
  next bracketed _ =>
    have stays := name.stays '[' (List.mem_of_head? bracketed.1)
    exact absurd stays (by decide)
  next =>
    cases again
    have stays : ∀ c ∈ host.map Char.toLower, hostStays c = true := by
      intro c present
      obtain ⟨d, there, rfl⟩ := List.mem_map.1 present
      exact (hostStays_toLower (name.stays d there)).2
    rw [Percent.encode_of_stays stays]
    rcases name.small with escaped | small
    · exact .inr ⟨escaped, rfl⟩
    · exact .inl ((List.map_congr_left small).trans (List.map_id' host))
  next beyond =>
    refine absurd (List.all_eq_true.2 fun c present => ?_) beyond
    simpa using (hostStays_toLower (name.stays c present)).1

/-- A network address in brackets is no other kind of host. -/
theorem normalizeHost_bracketed (again : normalizeHost ('[' :: host ++ [']']) = .ok other) :
    other = host := by
  have notDotted : looksDotted ('[' :: host ++ [']']) = false := by
    rw [← Bool.not_eq_true]
    intro dotted
    exact absurd (isPlain_of_looksDotted dotted '[' List.mem_cons_self) (by decide)
  have bracketed : ('[' :: host ++ [']']).head? = some '[' ∧
      ('[' :: host ++ [']']).getLast? = some ']' ∧ 2 ≤ ('[' :: host ++ [']']).length :=
    ⟨rfl, List.getLast?_concat, by simp⟩
  have inner : (('[' :: host ++ [']']).drop 1).dropLast = host := by simp
  unfold normalizeHost at again
  dsimp only at again
  rw [if_neg (by simp), notDotted, if_neg (by simp), if_pos bracketed, inner] at again
  split at again
  · cases again
    rfl
  · cases again

/-- The host of an address that is written and read once more is still the same. -/
theorem isSameHost_of_normalizeHost (form : IsHostName host ∨ isIpv6 host = true)
    (again : normalizeHost (writtenHost host) = .ok other) : IsSameHost host other := by
  unfold writtenHost at again
  rcases form with name | network
  · have noColon : ':' ∉ host := fun present => absurd (name.stays _ present) (by decide)
    rw [if_neg noColon] at again
    exact name.isSameHost again
  · rw [if_pos (colon_mem_of_isIpv6 network)] at again
    exact .inl (normalizeHost_bracketed again)

/-! ### Ports that are written once more -/

/-- A port as it is written in an address. -/
def writtenPort : Option Int → List Char
  | none => []
  | some port => (toString port).toList

/-- The port of an address that is written and read once more leads to the same port, the one that
the scheme implies if there is none. -/
theorem or_default_of_normalizePort {scheme : List Char} {port other : Option Int}
    (again : normalizePort scheme (writtenPort port) = .ok other) :
    other.or (defaultPort? (String.ofList scheme)) =
      port.or (defaultPort? (String.ofList scheme)) := by
  unfold normalizePort at again
  cases port with
  | none =>
      cases again
      rfl
  | some n =>
      have written : ¬ (writtenPort (some n)).isEmpty = true := by
        rw [writtenPort, Json.toList_toString_int]
        simp [Nat.toDigits_ne_nil]
      rw [if_neg written, writtenPort] at again
      split at again
      · cases again
      next m read =>
        cases again
        rw [Text.readWhole_toString read]
        split
        next same => simp [same]
        next => rfl

end Url

end ReviewGroups
