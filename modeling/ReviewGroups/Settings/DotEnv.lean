/-
Module: ReviewGroups.Settings.DotEnv
Purpose: Files of variables: one binding on a line, with quotes, comments and references.
Trusted boundary: none
Main exports: DotEnv.Binding, DotEnv.readBinding, DotEnv.bindings, DotEnv.expand, DotEnv.values
-/
import ReviewGroups.Keyed
import ReviewGroups.Text.Blank

namespace ReviewGroups.DotEnv

/-- A name and its value; a name without an equals sign has none. -/
abbrev Binding := String × Option String

/-- Every line ends in a line feed. -/
def normalizeLines : List Char → List Char
  | '\r' :: '\n' :: rest => '\n' :: normalizeLines rest
  | '\r' :: rest => '\n' :: normalizeLines rest
  | c :: rest => c :: normalizeLines rest
  | [] => []

/-- A blank inside a line. -/
def isInline (c : Char) : Bool :=
  Text.isBlank c && c != '\n' && c != '\r'

/-- The word that may stand in front of a name. -/
def exportWord : List Char := "export".toList

/-- Pass over the word in front of a name and the blanks after it. -/
def skipExport (cs : List Char) : List Char :=
  if exportWord.isPrefixOf cs then
    let rest := cs.drop exportWord.length
    if rest.head?.any isInline then rest.dropWhile isInline else cs
  else cs

/-- A name, with or without quotes, and the text after it, or the text at which reading stopped.  A
comment stands in for no name. -/
def readName (cs : List Char) : Except (List Char) (Option String × List Char) :=
  match cs with
  | '#' :: _ => .ok (none, cs)
  | '\'' :: rest =>
      let name := rest.takeWhile (· != '\'')
      match rest.dropWhile (· != '\'') with
      | _ :: after => if name.isEmpty then .error cs else .ok (some (String.ofList name), after)
      | [] => .error cs
  | _ =>
      let inName := fun c => c != '=' && c != '#' && !Text.isBlank c
      let name := cs.takeWhile inName
      if name.isEmpty then .error cs else .ok (some (String.ofList name), cs.dropWhile inName)

/-- The inside of quotes, and what follows them.  A backslash and the character after it belong
together, so that a quote there does not end the inside. -/
def closeQuote (mark : Char) : List Char → Option (List Char × List Char)
  | [] => none
  | ['\\'] => none
  | '\\' :: c :: rest =>
      (closeQuote mark rest).map fun (inside, after) => ('\\' :: c :: inside, after)
  | c :: rest =>
      if c = mark then some ([], rest)
      else (closeQuote mark rest).map fun (inside, after) => (c :: inside, after)

/-- The escapes between single quotes. -/
def singleEscape? (c : Char) : Option Char :=
  if c = '\\' ∨ c = '\'' then some c else none

/-- The escapes between double quotes. -/
def doubleEscape? (c : Char) : Option Char :=
  match c with
  | '\\' | '\'' | '"' => some c
  | 'a' => some '\x07'
  | 'b' => some '\x08'
  | 'f' => some '\x0c'
  | 'n' => some '\n'
  | 'r' => some '\r'
  | 't' => some '\t'
  | 'v' => some '\x0b'
  | _ => none

/-- Undo escapes; a backslash in front of anything else stays. -/
def unescape (escape? : Char → Option Char) : List Char → List Char
  | '\\' :: c :: rest =>
      match escape? c with
      | some plain => plain :: unescape escape? rest
      | none => '\\' :: unescape escape? (c :: rest)
  | c :: rest => c :: unescape escape? rest
  | [] => []

/-- The text up to a comment: blanks and a number sign. -/
def dropComment : List Char → List Char
  | [] => []
  | c :: rest =>
      if Text.isBlank c ∧ (rest.dropWhile Text.isBlank).head? = some '#' then []
      else c :: dropComment rest

/-- The value after an equals sign, and the text after it.  Blanks in front of the value do not
belong to it, but a number sign right after them starts a comment. -/
def readValue (cs : List Char) : Except (List Char) (String × List Char) :=
  match cs.dropWhile isInline with
  | '\'' :: rest =>
      match closeQuote '\'' rest with
      | some (inside, after) => .ok (String.ofList (unescape singleEscape? inside), after)
      | none => .error ('\'' :: rest)
  | '"' :: rest =>
      match closeQuote '"' rest with
      | some (inside, after) => .ok (String.ofList (unescape doubleEscape? inside), after)
      | none => .error ('"' :: rest)
  | _ =>
      let line := cs.takeWhile (· != '\n')
      .ok (String.ofList (Text.trimList Text.isBlank (dropComment line)),
        cs.dropWhile (· != '\n'))

/-- The text after the rest of a line, which holds at most a comment. -/
def readLineEnd (cs : List Char) : Except (List Char) (List Char) :=
  let afterBlanks := cs.dropWhile isInline
  let afterComment :=
    if afterBlanks.head? = some '#' then afterBlanks.dropWhile (· != '\n') else cs
  match afterComment.dropWhile isInline with
  | [] => .ok []
  | '\n' :: rest => .ok rest
  | _ => .error afterComment

/-- One binding, or the text at which the line went wrong. -/
def readBinding (cs : List Char) : Except (List Char) (Option Binding × List Char) := do
  let start := cs.dropWhile Text.isBlank
  if start.isEmpty then return (none, [])
  let (name, afterName) ← readName (skipExport start)
  let afterBlanks := afterName.dropWhile isInline
  let (value, afterValue) ←
    match afterBlanks with
    | '=' :: rest => do
        let (value, after) ← readValue rest
        pure (some value, after)
    | _ => pure (none, afterBlanks)
  let rest ← readLineEnd afterValue
  return (name.map fun name => (name, value), rest)

/-- Pass over the rest of a line. -/
def skipLine (cs : List Char) : List Char :=
  (cs.dropWhile (· != '\n')).drop 1

/-- The bindings of a text in order.  A line that is not in order is passed over. -/
def bindings (cs : List Char) : List Binding :=
  if cs.isEmpty then []
  else
    let (binding, rest) :=
      match readBinding cs with
      | .ok (binding, rest) => (binding, rest)
      | .error stopped => (none, skipLine stopped)
    if rest.length < cs.length then binding.toList ++ bindings rest else binding.toList
termination_by cs.length

/-- A reference after its dollar sign and brace: the name, the text for the case that the name is
unknown, and what follows the closing brace. -/
def reference? (cs : List Char) : Option (String × List Char × List Char) :=
  let name := String.ofList (cs.takeWhile fun c => c != '\x7d' && c != ':')
  match cs.dropWhile fun c => c != '\x7d' && c != ':' with
  | '\x7d' :: after => some (name, [], after)
  | ':' :: '-' :: rest =>
      match rest.dropWhile (· != '\x7d') with
      | _ :: after => some (name, rest.takeWhile (· != '\x7d'), after)
      | [] => none
  | _ => none

/-- A reference takes at least one character. -/
theorem reference?_shorter {cs otherwise after : List Char} {name : String}
    (found : reference? cs = some (name, otherwise, after)) : after.length < cs.length := by
  have atName := (List.dropWhile_sublist (l := cs) fun c => c != '\x7d' && c != ':').length_le
  unfold reference? at found
  dsimp only at found
  split at found
  · next rest shape =>
    rw [shape, List.length_cons] at atName
    simp only [Option.some.injEq, Prod.mk.injEq] at found
    rw [← found.2.2]
    omega
  · next rest shape =>
    rw [shape] at atName
    simp only [List.length_cons] at atName
    have atDefault := (List.dropWhile_sublist (l := rest) (· != '\x7d')).length_le
    split at found
    · next closing =>
      rw [closing, List.length_cons] at atDefault
      simp only [Option.some.injEq, Prod.mk.injEq] at found
      rw [← found.2.2]
      omega
    · cases found
  · cases found

/-- Replace references by values: a name between braces after a dollar sign, perhaps with a text for
the case that the name is unknown. -/
def expand (lookup : String → Option (Option String)) (cs : List Char) : List Char :=
  match cs with
  | '$' :: '\x7b' :: rest =>
      match found : reference? rest with
      | some (name, otherwise, after) =>
          have := reference?_shorter found
          (match lookup name with
            | some known => (known.getD "").toList
            | none => otherwise) ++ expand lookup after
      | none => '$' :: '\x7b' :: expand lookup rest
  | c :: rest => c :: expand lookup rest
  | [] => []
termination_by cs.length
decreasing_by
  all_goals simp only [List.length_cons]
  all_goals omega

/-- The mark that may stand at the start of a file. -/
def signature : Char := '\uFEFF'

/-- The text after the mark at its start, if it has one. -/
def dropSignature : List Char → List Char
  | [] => []
  | c :: rest => if c = signature then rest else c :: rest

/-- The variables of a file, references replaced: those to names earlier in the file count before
those to the environment. -/
def values (environment : Keyed String) (text : String) : Keyed (Option String) :=
  (bindings (normalizeLines (dropSignature text.toList))).foldl
    (fun known (name, value) =>
      let lookup := fun name =>
        match Keyed.get? name known with
        | some value => some value
        | none => (Keyed.get? name environment).map some
      Keyed.insert name
        (value.map fun value => String.ofList (expand lookup value.toList)) known)
    []

end ReviewGroups.DotEnv
