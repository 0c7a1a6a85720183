/-
Module: ReviewGroups.Proofs.HostName
Purpose: What host names beyond ASCII are written with in ASCII: small letters, digits, hyphens, and
  dots between the labels. The characters that are permitted come from charts, which are gone
  through row by row; the rest follows the way of a name through mapping, composing and encoding.
  Needed for one reason: a host that was read once must be read in the same way when it is written
  again.
Trusted boundary: none
Main exports: Text.PointSet.exists_run_of_holds, Text.toLower_eq_self, Text.toLower_toLower,
  Label.isPlain, Label.forall_isPlain, HostName.isPlain_of_toAscii
-/
import ReviewGroups.Proofs.Pairing
import ReviewGroups.Proofs.PathSegments
import ReviewGroups.Proofs.Result

namespace ReviewGroups

namespace Text

/-! ### Charts -/

namespace Chart

variable {holds : Nat × Nat → Prop}

private theorem forall_readRuns_nil : ∀ run ∈ readRuns [], holds run :=
  fun _ none => absurd none List.not_mem_nil

private theorem forall_readRuns_cons {row : List Char} {rows : List String}
    (here : ∀ entry ∈ (splitAt ' ' row).filter (!·.isEmpty), holds (readRun entry))
    (there : ∀ run ∈ readRuns rows, holds run) :
    ∀ run ∈ readRuns (String.ofList row :: rows), holds run := by
  intro run present
  unfold readRuns at present
  rw [List.flatMap_cons, entries, String.toList_ofList] at present
  rcases List.mem_append.1 present with first | later
  · obtain ⟨entry, isEntry, rfl⟩ := List.mem_map.1 first
    exact here entry isEntry
  · exact there run later

end Chart

/-- Where a count in a table ends: where it starts, or behind an entry with a key up to `n`. -/
theorem countUpTo_cases {α : Type} (table : Array (Nat × α)) (n low high : Nat) :
    countUpTo table n low high = low ∨
      ∃ place entry, countUpTo table n low high = place + 1 ∧ table[place]? = some entry ∧
        entry.1 ≤ n := by
  fun_induction countUpTo table n low high with
  | case1 low high room middle below inductionHypothesis =>
      refine .inr ?_
      rcases inductionHypothesis with ended | further
      · obtain ⟨entry, there, small⟩ := (Option.any_eq_true _ _).1 below
        exact ⟨middle, entry, ended, there, of_decide_eq_true small⟩
      · exact further
  | case2 low high room middle above inductionHypothesis => exact inductionHypothesis
  | case3 low high noRoom => exact .inl rfl

private theorem of_lastUpTo? {α : Type} {table : Array (Nat × α)} {n : Nat} {entry : Nat × α}
    (found : lastUpTo? table n = some entry) : entry ∈ table.toList ∧ entry.1 ≤ n := by
  unfold lastUpTo? at found
  split at found
  next => cases found
  next count counted =>
    rcases countUpTo_cases table n 0 table.size with none | ⟨place, other, ended, there, small⟩
    · rw [none] at counted
      cases counted
    · obtain rfl : count = place := by omega
      cases found.symm.trans there
      exact ⟨Array.mem_toList_iff.2 (Array.mem_of_getElem? found), small⟩

/-- A code point of a set lies in one of its runs. -/
theorem PointSet.exists_run_of_holds {set : PointSet} {n : Nat} (held : set.holds n = true) :
    ∃ run ∈ set.runs.toList, run.1 ≤ n ∧ n ≤ run.2 := by
  obtain ⟨run, found, reaches⟩ := (Option.any_eq_true _ _).1 held
  obtain ⟨isRun, starts⟩ := of_lastUpTo? found
  exact ⟨run, isRun, starts, of_decide_eq_true reaches⟩

/-! ### Small letters -/

/-- A character that is no capital letter of ASCII is its own small letter. -/
theorem toLower_eq_self {c : Char} (small : ¬ (0x41 ≤ c.toNat ∧ c.toNat ≤ 0x5A)) :
    c.toLower = c :=
  dif_neg small

/-- A small letter is its own small letter. -/
theorem toLower_toLower (c : Char) : c.toLower.toLower = c.toLower := by
  by_cases capital : 0x41 ≤ c.toNat ∧ c.toNat ≤ 0x5A
  · have all : ∀ c : Char, c.toNat < 0x80 → c.toLower.toLower = c.toLower :=
      forall_ascii (by decide)
    exact all c (by omega)
  · rw [toLower_eq_self capital, toLower_eq_self capital]

private theorem toLower_ofNat {n : Nat} (behind : 0x5A < n) :
    (Char.ofNat n).toLower = Char.ofNat n := by
  by_cases valid : n.isValidChar
  · have whole : Char.ofNat n = Char.ofNatAux n valid := dif_pos valid
    apply toLower_eq_self
    rw [whole]
    change ¬ (0x41 ≤ n ∧ n ≤ 0x5A)
    omega
  · have whole : Char.ofNat n = Char.ofNat 0 := dif_neg valid
    rw [whole]
    decide

/-- The lower case of a character has no capital letters of ASCII. -/
theorem toLower_of_mem_lowerChar {c d : Char} (present : d ∈ lowerChar c) : d.toLower = d := by
  have beyond : ∀ run ∈ lowerRuns.toList, 0x5A < run.target := by
    decide +kernel
  unfold lowerChar at present
  dsimp only at present
  split at present
  next =>
    rw [List.mem_singleton.1 present, toLower_toLower]
  next large =>
    split at present
    · rcases List.mem_pair.1 present with rfl | rfl <;> decide
    · split at present
      next image found =>
        obtain ⟨run, held, rfl⟩ := Option.map_eq_some_iff.1 found
        have member := beyond run (Array.mem_toList_iff.2 (Array.mem_of_find?_eq_some held))
        rw [List.mem_singleton.1 present]
        apply toLower_ofNat
        unfold CaseRun.image
        omega
      next =>
        rw [List.mem_singleton.1 present]
        exact toLower_eq_self (by omega)

/-- A text in lower case has no capital letters of ASCII. -/
theorem toLower_of_mem_lowerFrom {before cs : List Char} {d : Char}
    (present : d ∈ lowerFrom before cs) : d.toLower = d := by
  induction cs generalizing before with
  | nil => simp [lowerFrom] at present
  | cons c rest inductionHypothesis =>
      unfold lowerFrom at present
      rcases List.mem_append.1 present with here | there
      · split at here
        · rw [List.mem_singleton.1 here]
          apply toLower_ofNat
          split <;> decide
        · exact toLower_of_mem_lowerChar here
      · exact inductionHypothesis there

end Text

namespace Url

/-! ### Plain characters -/

/-- The characters of a label in ASCII: small letters, digits and hyphens. -/
def Label.isPlain (c : Char) : Bool :=
  c.isLower || c.isDigit || c == '-'

/-- A property of the plain characters is found out one by one. -/
theorem Label.forall_isPlain {holds : Char → Prop}
    (all : ∀ n < 0x80, isPlain (Char.ofNat n) = true → holds (Char.ofNat n)) :
    ∀ c, isPlain c = true → holds c := by
  intro c plain
  have small : c.toNat < 0x80 := by
    apply Percent.toNat_lt_of_isUnreserved
    simp only [isPlain, Bool.or_eq_true, beq_iff_eq] at plain
    rcases plain with (letter | digit) | rfl
    · have alpha : c.isAlpha = true := Bool.or_eq_true_iff.2 (.inr letter)
      simp [Percent.isUnreserved, Char.isAlphanum, alpha]
    · simp [Percent.isUnreserved, Char.isAlphanum, digit]
    · decide
  have held := all c.toNat small
  rw [Char.ofNat_toNat] at held
  exact held plain

-- The chart is gone through row by row: a row is turned into its characters by a lemma, which takes
-- far less than computing them.
set_option maxRecDepth 4000 in
/-- Of ASCII a label may hold the hyphen, the digits and the small letters. -/
theorem LabelChart.runs_permitted : ∀ run ∈ permitted.runs.toList,
    0x80 ≤ run.1 ∨ run ∈ [(0x2D, 0x2D), (0x30, 0x39), (0x61, 0x7A)] := by
  change ∀ run ∈ Text.Chart.readRuns _, _
  repeat refine Text.Chart.forall_readRuns_cons (by decide +kernel) ?_
  exact Text.Chart.forall_readRuns_nil

/-- A character of ASCII that a label may hold is plain. -/
theorem LabelChart.isPlain_of_permitted {n : Nat} (small : n < 0x80)
    (held : permitted.holds n = true) : Label.isPlain (Char.ofNat n) = true := by
  have plain : ∀ run ∈ [(0x2D, 0x2D), (0x30, 0x39), (0x61, 0x7A)], ∀ n < 0x80,
      run.1 ≤ n → n ≤ run.2 → Label.isPlain (Char.ofNat n) = true := by
    decide +kernel
  obtain ⟨run, isRun, starts, ends⟩ := Text.PointSet.exists_run_of_holds held
  rcases runs_permitted run isRun with large | listed
  · omega
  · exact plain run listed n small starts ends

/-- The joiners, and what may stand only beside certain others, are beyond ASCII. -/
theorem LabelChart.le_of_contextual {n : Nat}
    (held : joiners.holds n = true ∨ contextual.holds n = true) : 0x80 ≤ n := by
  have beyond : ∀ run ∈ joiners.runs.toList ++ contextual.runs.toList, 0x80 ≤ run.1 := by
    decide +kernel
  rcases held with held | held
  · obtain ⟨run, isRun, starts, -⟩ := Text.PointSet.exists_run_of_holds held
    exact Nat.le_trans (beyond run (List.mem_append_left _ isRun)) starts
  · obtain ⟨run, isRun, starts, -⟩ := Text.PointSet.exists_run_of_holds held
    exact Nat.le_trans (beyond run (List.mem_append_right _ isRun)) starts

/-- What of ASCII is in a label the points of which are in order is plain. -/
theorem Label.isPlain_of_checkPoints {label before points : List Nat}
    (checked : checkPoints label before points = .ok ()) :
    ∀ n ∈ points, n < 0x80 → isPlain (Char.ofNat n) = true := by
  induction points generalizing before with
  | nil => simp
  | cons point after inductionHypothesis =>
      have split : (0x80 ≤ point ∨ LabelChart.permitted.holds point = true) ∧
          checkPoints label (point :: before) after = .ok () := by
        rw [checkPoints] at checked
        split at checked
        next permitted => exact ⟨.inr permitted, checked⟩
        next =>
          split at checked
          next joins =>
            split at checked
            · exact ⟨.inl (LabelChart.le_of_contextual (.inl joins)), checked⟩
            · cases checked
          next =>
            split at checked
            next held =>
              split at checked
              · exact ⟨.inl (LabelChart.le_of_contextual (.inr held)), checked⟩
              · cases checked
            next => cases checked
      rw [List.forall_mem_cons]
      refine ⟨?_, inductionHypothesis split.2⟩
      rcases split.1 with large | permitted
      · intro small
        omega
      · exact fun small => LabelChart.isPlain_of_permitted small permitted

/-- What of ASCII is in a label that is in order is plain. -/
theorem Label.isPlain_of_check {label : List Nat} (checked : check label = .ok ()) :
    ∀ n ∈ label, n < 0x80 → isPlain (Char.ofNat n) = true := by
  unfold check at checked
  simp only [Result.guard_eq_ok_iff] at checked
  obtain ⟨-, -, -, -, -, -, checked⟩ := checked
  obtain ⟨_, inOrder, -⟩ := Result.bind_eq_ok_iff.1 checked
  exact isPlain_of_checkPoints inOrder

namespace Punycode

/-- The digits of a delta are plain. -/
theorem isPlain_of_mem_deltaDigits {bias place delta : Nat} :
    ∀ c ∈ deltaDigits bias place delta, Label.isPlain c = true := by
  have plain : ∀ n < 36, Label.isPlain (digit n) = true := by decide
  induction place, delta using deltaDigits.induct bias with
  | case1 place delta last small =>
      have bounds := threshold_bounds place bias
      rw [deltaDigits, if_pos small, List.forall_mem_singleton]
      exact plain delta (by omega)
  | case2 place delta last large inductionHypothesis =>
      have bounds := threshold_bounds place bias
      have rest : (delta - threshold place bias) % (36 - threshold place bias) <
          36 - threshold place bias := Nat.mod_lt _ (by omega)
      rw [deltaDigits, if_neg large, List.forall_mem_cons]
      exact ⟨plain _ (by omega), inductionHypothesis⟩

private theorem isPlain_of_mem_visit {plain point n : Nat} {writing : Writing}
    (before : ∀ c ∈ writing.digits, Label.isPlain c = true) :
    ∀ c ∈ (visit plain point writing n).digits, Label.isPlain c = true := by
  unfold visit
  split
  · exact before
  · split
    · exact List.forall_mem_append.2 ⟨before, isPlain_of_mem_deltaDigits⟩
    · exact before

private theorem isPlain_of_mem_foldl_visit {plain point : Nat} {label : List Nat}
    {writing : Writing}
    (before : ∀ c ∈ writing.digits, Label.isPlain c = true) :
    ∀ c ∈ (label.foldl (visit plain point) writing).digits, Label.isPlain c = true := by
  induction label generalizing writing with
  | nil => exact before
  | cons n label inductionHypothesis => exact inductionHypothesis (isPlain_of_mem_visit before)

private theorem isPlain_of_mem_write {label : List Nat} {plain reached : Nat} {points : List Nat}
    {writing : Writing} (before : ∀ c ∈ writing.digits, Label.isPlain c = true) :
    ∀ c ∈ (write label plain points reached writing).digits, Label.isPlain c = true := by
  induction points generalizing reached writing with
  | nil => exact before
  | cons point points inductionHypothesis =>
      exact inductionHypothesis (isPlain_of_mem_foldl_visit before)

/-- A label in ASCII is plain if what of ASCII is in the label is. -/
theorem isPlain_of_mem_encode {label : List Nat}
    (plain : ∀ n ∈ label, n < 0x80 → Label.isPlain (Char.ofNat n) = true) :
    ∀ c ∈ encode label, Label.isPlain c = true := by
  intro c present
  unfold encode at present
  dsimp only at present
  rcases List.mem_append.1 present with front | written
  · rcases List.mem_append.1 front with own | hyphen
    · obtain ⟨n, there, rfl⟩ := List.mem_map.1 own
      obtain ⟨isPoint, small⟩ := List.mem_filter.1 there
      exact plain n isPoint (of_decide_eq_true small)
    · split at hyphen
      · cases hyphen
      · rw [List.mem_singleton.1 hyphen]
        decide
  · exact isPlain_of_mem_write (by simp) c written

/-- What is read as a delta starts with digits. -/
theorem exists_of_readDelta? {bias place weight value delta : Nat} {cs rest : List Char}
    (found : readDelta? bias place weight value cs = some (delta, rest)) :
    ∃ front, cs = front ++ rest ∧ ∀ c ∈ front, (digitValue? c).isSome = true := by
  induction cs generalizing place weight value with
  | nil => cases found
  | cons c others inductionHypothesis =>
      rw [readDelta?] at found
      split at found
      next => cases found
      next digit isDigit =>
        dsimp only at found
        split at found
        · cases found
          exact ⟨[c], rfl, by simp [isDigit]⟩
        · obtain ⟨front, rfl, digits⟩ := inductionHypothesis found
          refine ⟨c :: front, rfl, ?_⟩
          rw [List.forall_mem_cons]
          exact ⟨by simp [isDigit], digits⟩

/-- What is put in comes beside what was there. -/
theorem subset_of_insert? {reading next : Reading} {delta : Nat} {first : Bool}
    (inserted : reading.insert? delta first = some next) : reading.points ⊆ next.points := by
  unfold Reading.insert? at inserted
  dsimp only at inserted
  split at inserted
  · cases inserted
  · cases inserted
    intro n present
    rw [← List.take_append_drop ((reading.place + delta) % (reading.points.length + 1))
      reading.points, List.mem_append] at present
    rcases present with before | behind
    · exact List.mem_append_left _ before
    · exact List.mem_append_right _ (List.mem_cons_of_mem _ behind)

/-- Deltas consist of digits, and what was read before them stays. -/
theorem of_read? {reading : Reading} {first : Bool} {cs : List Char} {points : List Nat}
    (read : read? reading first cs = some points) :
    reading.points ⊆ points ∧ ∀ c ∈ cs, (digitValue? c).isSome = true := by
  fun_induction read? reading first cs with
  | case1 reading first =>
      cases read
      exact ⟨fun _ present => present, by simp⟩
  | case2 => cases read
  | case3 => cases read
  | case4 reading first c rest delta others found shorter next inserted inductionHypothesis =>
      obtain ⟨front, whole, digits⟩ := exists_of_readDelta? found
      obtain ⟨kept, further⟩ := inductionHypothesis read
      rw [whole]
      exact ⟨List.Subset.trans (subset_of_insert? inserted) kept,
        List.forall_mem_append.2 ⟨digits, further⟩⟩

/-- A label in ASCII consists of the code points of ASCII that are decoded, hyphens and digits. -/
theorem of_decode? {cs : List Char} {points : List Nat} (decoded : decode? cs = some points) :
    ∀ c ∈ cs, c.toNat ∈ points ∨ c = '-' ∨ (digitValue? c).isSome = true := by
  unfold decode? at decoded
  dsimp only at decoded
  obtain ⟨kept, digits⟩ := of_read? decoded
  intro c present
  rcases cut : Text.cutAt '-' cs.reverse with _ | ⟨deltas, plain⟩
  · rw [cut] at digits
    exact .inr (.inr (digits c (by simpa using present)))
  · rw [cut] at digits kept
    have whole := (Text.cutAt_eq_some_iff.1 cut).2
    rw [← List.mem_reverse, whole, List.mem_append, List.mem_cons] at present
    rcases present with delta | hyphen | isPlain
    · exact .inr (.inr (digits c (List.mem_reverse.2 delta)))
    · exact .inr (.inl hyphen)
    · exact .inl (kept (List.mem_map_of_mem (List.mem_reverse.2 isPlain)))

private theorem isPlain_of_digitValue? {c : Char} (ascii : c.toNat < 0x80) (small : c.toLower = c)
    (digit : (digitValue? c).isSome = true) : Label.isPlain c = true := by
  have all : ∀ c : Char, c.toNat < 0x80 → c.toLower = c → (digitValue? c).isSome = true →
      Label.isPlain c = true :=
    Text.forall_ascii (by decide)
  exact all c ascii small digit

end Punycode

/-! ### Labels and names -/

namespace Label

/-- What ASCII stands for code points that are in order in is plain. -/
theorem isPlain_of_ofAscii {label : List Char} {points : List Nat}
    (ascii : ∀ c ∈ label, c.toNat < 0x80) (small : ∀ c ∈ label, c.toLower = c)
    (read : ofAscii label = .ok points) : ∀ c ∈ label, isPlain c = true := by
  have same : label.map Char.toLower = label :=
    (List.map_congr_left small).trans (List.map_id' label)
  unfold ofAscii at read
  dsimp only at read
  rw [same] at read
  split at read
  next marked =>
    simp only [Result.guard_eq_ok_iff] at read
    obtain ⟨-, -, read⟩ := read
    split at read
    next => cases read
    next decoded found =>
      obtain ⟨_, checked, -⟩ := Result.bind_eq_ok_iff.1 read
      obtain ⟨encoded, rfl⟩ := List.isPrefixOf_iff_prefix.1 marked
      rw [List.drop_left] at found
      rw [List.forall_mem_append]
      refine ⟨List.all_eq_true.1 (by decide), ?_⟩
      intro c present
      have inLabel : c ∈ encodedMark ++ encoded := List.mem_append_right _ present
      rcases Punycode.of_decode? found c present with isPoint | rfl | digit
      · have plain := isPlain_of_check checked c.toNat isPoint (ascii c inLabel)
        rwa [Char.ofNat_toNat] at plain
      · decide
      · exact Punycode.isPlain_of_digitValue? (ascii c inLabel) (small c inLabel) digit
  next =>
    obtain ⟨_, checked, -⟩ := Result.bind_eq_ok_iff.1 read
    intro c present
    have plain := isPlain_of_check checked c.toNat (List.mem_map_of_mem present) (ascii c present)
    rwa [Char.ofNat_toNat] at plain

/-- A label without capital letters is plain in ASCII. -/
theorem isPlain_of_toAscii {label ascii : List Char} (small : ∀ c ∈ label, c.toLower = c)
    (written : toAscii label = .ok ascii) : ∀ c ∈ ascii, isPlain c = true := by
  unfold toAscii at written
  split at written
  next within =>
    obtain ⟨points, read, written⟩ := Result.bind_eq_ok_iff.1 written
    rw [pure_bind] at written
    cases Result.eq_of_unless written
    exact isPlain_of_ofAscii (by simpa using within) small read
  next =>
    obtain ⟨_, checked, written⟩ := Result.bind_eq_ok_iff.1 written
    rw [pure_bind] at written
    cases Result.eq_of_unless written
    rw [List.forall_mem_append]
    exact ⟨List.all_eq_true.1 (by decide),
      Punycode.isPlain_of_mem_encode (isPlain_of_check checked)⟩

end Label

namespace HostName

/-- What the labels of a name consist of: its characters, and dots. -/
theorem mem_of_mem_labels {name label : List Char} {pieces : List (List Char)} {dotted : Bool}
    (split : labels name = .ok (pieces, dotted)) (piece : label ∈ pieces) {c : Char}
    (present : c ∈ label) : c = '.' ∨ c ∈ name := by
  have whole : label ∈ Text.splitAt '.' (name.map fun c => if isDot c then '.' else c) := by
    unfold labels at split
    dsimp only at split
    split_ifs at split
    · cases split
      exact (List.dropLast_sublist _).subset piece
    · cases split
      exact piece
  obtain ⟨d, there, same⟩ := List.mem_map.1 (Text.mem_of_mem_splitAt whole present)
  split at same
  · exact .inl same.symm
  · exact .inr (same ▸ there)

/-- A name without capital letters is written in ASCII with plain characters, and dots between its
labels. -/
theorem isPlain_of_toAscii {name ascii : List Char} (small : ∀ c ∈ name, c.toLower = c)
    (written : toAscii name = .ok ascii) : ∀ c ∈ ascii, c = '.' ∨ Label.isPlain c = true := by
  intro c present
  unfold toAscii at written
  obtain ⟨⟨pieces, dotted⟩, split, written⟩ := Result.bind_eq_ok_iff.1 written
  obtain ⟨labels, each, written⟩ := Result.bind_eq_ok_iff.1 written
  rw [← Result.eq_of_unless written] at present
  rcases Text.mem_intercalate present with dot | ⟨label, isLabel, inside⟩
  · exact .inl dot
  · have among : label ∈ labels := by
      split at isLabel
      · rcases List.mem_append.1 isLabel with among | last
        · exact among
        · rw [List.mem_singleton.1 last] at inside
          cases inside
      · exact isLabel
    obtain ⟨piece, isPiece, asciiOf⟩ :=
      exists_mem_of_forall₂ (Result.mapM_eq_ok_iff.1 each) among
    refine .inr (Label.isPlain_of_toAscii ?_ asciiOf c inside)
    intro d there
    rcases mem_of_mem_labels split isPiece there with rfl | inName
    · decide
    · exact small d inName

end HostName

end Url

end ReviewGroups
