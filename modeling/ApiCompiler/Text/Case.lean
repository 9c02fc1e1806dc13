import ApiCompiler.Text.CaseTable

/-!
# Changing case

Full case conversion of whole texts: a character may become several, and a capital sigma at the end
of a word becomes the final small sigma.
-/

namespace ApiCompiler.Text

/-- The image of a code point under the runs of a case table. -/
def CaseRun.lookup? (runs : List CaseRun) (code : Nat) : Option Nat :=
  (runs.find? fun (first, last, step, _) ↦
      first ≤ code && code ≤ last && (code - first) % step == 0).map
    fun (first, _, _, target) ↦ target + (code - first)

/-- The image of a code point under the expansions of a case table. -/
def expansion? (expansions : List (Nat × List Nat)) (code : Nat) : Option (List Char) :=
  (expansions.find? fun entry ↦ entry.1 == code).map fun entry ↦ entry.2.map Char.ofNat

/-- The image of a character that is not ASCII; a character outside the table maps to itself. -/
def mapCase (runs : List CaseRun) (expansions : List (Nat × List Nat)) (c : Char) : List Char :=
  match expansion? expansions c.toNat with
  | some chars => chars
  | none => [(CaseRun.lookup? runs c.toNat).elim c Char.ofNat]

/-- The lower case of one character, out of context. -/
def lowerChar (c : Char) : List Char :=
  if c.toNat < 128 then [c.toLower] else mapCase lowerRuns lowerExpansions c

/-- The upper case of one character. -/
def upperChar (c : Char) : List Char :=
  if c.toNat < 128 then [c.toUpper] else mapCase upperRuns upperExpansions c

/-- The title case of one character. -/
def titleChar (c : Char) : List Char :=
  (expansion? titleExceptions c.toNat).getD (upperChar c)

/-- A character with case that counts as the neighbour of a sigma. -/
def isCased (c : Char) : Bool :=
  if c.toNat < 128 then c.isAlpha else casedRanges.contains c.toNat

/-- A character that is skipped when the neighbour of a sigma is sought. -/
def isCaseIgnorable (c : Char) : Bool :=
  caseIgnorableRanges.contains c.toNat

/-- The nearest character that is not skipped has case. -/
def borderedByCase (neighbours : List Char) : Bool :=
  ((neighbours.dropWhile isCaseIgnorable).head?.map isCased).getD false

/-- Lower case of the remaining characters, given those before them, nearest first. -/
def lowerAfter (before : List Char) : List Char → List Char
  | [] => []
  | c :: rest =>
    let image :=
      if c == 'Σ' then
        if borderedByCase before && !borderedByCase rest then ['ς'] else ['σ']
      else lowerChar c
    image ++ lowerAfter (c :: before) rest

/-- The lower case of a text. -/
def lower (text : List Char) : List Char :=
  lowerAfter [] text

/-- The upper case of a text. -/
def upper (text : List Char) : List Char :=
  text.flatMap upperChar

/-- The first character in title case and the others in lower case. -/
def capitalize : List Char → List Char
  | [] => []
  | c :: rest => titleChar c ++ lowerAfter [c] rest

end ApiCompiler.Text
