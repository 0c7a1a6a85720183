/-
Module: ReviewGroups.Keyed
Purpose: Values under text keys, in the order in which the keys came.
Trusted boundary: none
Main exports: Keyed, Keyed.insert, Keyed.ofPairs, Keyed.get?, Keyed.keys
-/

namespace ReviewGroups

/-- Values under keys, in order. -/
abbrev Keyed (α : Type) := List (String × α)

namespace Keyed

variable {α : Type}

/-- The keys in order. -/
def keys (entries : Keyed α) : List String :=
  entries.map Prod.fst

/-- Set a key: a new one comes last, a known one keeps its place and takes the value. -/
def insert (key : String) (value : α) : Keyed α → Keyed α
  | [] => [(key, value)]
  | (k, v) :: rest => if k = key then (key, value) :: rest else (k, v) :: insert key value rest

/-- Pairs in the order in which they came: a repeated key keeps its first place and takes its last
value. -/
def ofPairs (pairs : List (String × α)) : Keyed α :=
  pairs.foldl (fun entries pair => insert pair.1 pair.2 entries) []

/-- The value under a key. -/
def get? (key : String) : Keyed α → Option α
  | [] => none
  | (k, v) :: rest => if k = key then some v else get? key rest

/-- Set every key of `more`. -/
def update (entries more : Keyed α) : Keyed α :=
  more.foldl (fun entries pair => insert pair.1 pair.2 entries) entries

/-- A key that is there keeps its place. -/
theorem keys_insert_of_mem (key : String) (value : α) (entries : Keyed α)
    (known : key ∈ keys entries) : keys (insert key value entries) = keys entries := by
  induction entries with
  | nil => simp [keys] at known
  | cons pair rest inductionHypothesis =>
      by_cases hit : pair.1 = key
      · simp [keys, insert, hit]
      · have later : key ∈ keys rest := by
          simpa [keys, Ne.symm hit] using known
        have kept := inductionHypothesis later
        simp only [keys] at kept
        simp [keys, insert, hit, kept]

/-- A new key comes last. -/
theorem keys_insert_of_not_mem (key : String) (value : α) (entries : Keyed α)
    (unknown : key ∉ keys entries) : keys (insert key value entries) = keys entries ++ [key] := by
  induction entries with
  | nil => simp [keys, insert]
  | cons pair rest inductionHypothesis =>
      simp only [keys, List.map_cons, List.mem_cons, not_or] at unknown
      have added := inductionHypothesis unknown.2
      simp only [keys] at added
      simp [keys, insert, Ne.symm unknown.1, added]

end Keyed

end ReviewGroups
