import SqlBuilder.Text.CaseTable
import SqlBuilder.Text.Category

/-!
Full case mapping: a letter may become several, and a capital sigma at the end of a word becomes
the final sigma.
-/

namespace SqlBuilder.Text

def moved (runs : List CaseRun) (c : Char) : Char :=
  match runs.find? (·.holds c.toNat) with
  | some run => run.move c.toNat
  | none => c

def upperChar (c : Char) : List Char :=
  if c.toNat < 128 then [c.toUpper]
  else match upperExpansions.lookup c.toNat with
    | some codes => codes.map Char.ofNat
    | none => [moved upperRuns c]

def upper (text : String) : String := String.ofList (text.toList.flatMap upperChar)

/-- Lower case of a letter on its own. The dotted capital I keeps its dot as a mark. -/
def lowerChar (c : Char) : List Char :=
  if c.toNat < 128 then [c.toLower]
  else if c = 'İ' then ['i', Char.ofNat 0x307]
  else [moved lowerRuns c]

/-- Whether a cased letter comes next, not counting what case ignores. -/
def meetsLetter (chars : List Char) : Bool :=
  (chars.dropWhile isCaseIgnorable).head?.any isCased

/-- Lower case of the rest of a text, where `before` is what came first, backwards. -/
def lowerFrom (before : List Char) : List Char → List Char
  | [] => []
  | c :: rest =>
    let low :=
      if c = 'Σ' then [if meetsLetter before && !meetsLetter rest then 'ς' else 'σ']
      else lowerChar c
    low ++ lowerFrom (c :: before) rest

def lower (text : String) : String := String.ofList (lowerFrom [] text.toList)

end SqlBuilder.Text
