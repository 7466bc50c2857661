import SqlBuilder.Proofs.Pieces

/-!
Conditions read back from SQL. What stands in backticks or quotes is one token each, and outside
them words, signs and punctuation are told apart. `AND` binds tighter than `OR`, the `AND` of a
range belongs to the range, and parentheses make a group. Which operators there are besides those
with a syntax of their own is for the database to say, so the reader is told.
-/

namespace SqlBuilder

/-! ### Tokens -/

inductive Token where
  | name (text : String)
  | literal (text : String)
  | word (text : String)
  | sign (text : String)
  | mark (c : Char)
deriving Repr, DecidableEq

/-- What a character outside quotes is part of. -/
inductive CharClass where
  | blank
  | mark
  | sign
  | word
deriving Repr, DecidableEq

namespace CharClass

def of (c : Char) : CharClass :=
  if c = ' ' then blank
  else if c ∈ ['(', ')', ','] then mark
  else if c ∈ ['=', '<', '>', '!'] then sign
  else word

/-- The class of the character that comes next, if one does. -/
def next? : List Piece → Option CharClass
  | .bare c :: _ => some (of c)
  | _ => none

end CharClass

namespace Token

/-- The character put in front of the word or sign that comes first. -/
def extend (c : Char) : List Token → List Token
  | word text :: rest => word (String.ofList (c :: text.toList)) :: rest
  | sign text :: rest => sign (String.ofList (c :: text.toList)) :: rest
  | tokens => tokens

/-- Neighbours that are parts of words make one word, and so for signs. -/
def ofPieces : List Piece → List Token
  | [] => []
  | .name text :: rest => name text :: ofPieces rest
  | .literal text :: rest => literal text :: ofPieces rest
  | .bare c :: rest =>
    match CharClass.of c with
    | .blank => ofPieces rest
    | .mark => mark c :: ofPieces rest
    | .sign =>
      if CharClass.next? rest = some .sign then extend c (ofPieces rest)
      else sign (String.ofList [c]) :: ofPieces rest
    | .word =>
      if CharClass.next? rest = some .word then extend c (ofPieces rest)
      else word (String.ofList [c]) :: ofPieces rest

/-- Words that no operator has: the connectives, and what a value can start with. -/
def reserved : List String := ["AND", "OR", "XOR", "NULL", "POINT"]

/-- Whether the token can be part of an operator. A number with a sign or a point cannot, nor can a
comment. -/
def isOperator : Token → Bool
  | word text => text.toList.all (fun c => c != '-' && c != '.') && !reserved.contains text
  | sign _ => true
  | _ => false

def text : Token → String
  | name text | literal text | word text | sign text => text
  | mark c => String.ofList [c]

/-- What is left after the tokens that have to come first. -/
def skip : List Token → List Token → Option (List Token)
  | [], rest => some rest
  | _ :: _, [] => none
  | wanted :: others, first :: rest => if wanted = first then skip others rest else none

end Token

theorem CharClass.of_numeral {c : Char} (h : c.isAlphanum = true ∨ c = '.' ∨ c = '-') :
    CharClass.of c = .word := by
  have hall : ∀ d ∈ [' ', '(', ')', ',', '=', '<', '>', '!'],
      ¬(d.isAlphanum = true ∨ d = '.' ∨ d = '-') := by decide
  have hc : c ∉ [' ', '(', ')', ',', '=', '<', '>', '!'] := fun hm => hall c hm h
  simp only [List.mem_cons, List.not_mem_nil, or_false, not_or] at hc
  simp [CharClass.of, hc]

theorem CharClass.apart {text : String} {kind : CharClass}
    (h : CharClass.next? (Piece.ofBare text) = some kind) (hk : kind ≠ .word) (rest : List Piece) :
    CharClass.next? (Piece.ofBare text ++ rest) ≠ some .word := by
  unfold Piece.ofBare at h ⊢
  cases ht : text.toList with
  | nil => simp [ht, CharClass.next?] at h
  | cons c others =>
    have hc : CharClass.of c = kind := by simpa [ht, CharClass.next?] using h
    simp [CharClass.next?, hc, hk]

namespace Token

variable {rest : List Piece}

/-- Characters of words make one word, up to a character of another class. -/
theorem of_word {chars : List Char} (hn : chars ≠ []) (hw : ∀ c ∈ chars, CharClass.of c = .word)
    (hr : CharClass.next? rest ≠ some .word) :
    ofPieces (chars.map .bare ++ rest) = .word (String.ofList chars) :: ofPieces rest := by
  induction chars with
  | nil => exact absurd rfl hn
  | cons c others ih =>
    have hc := hw c (by simp)
    cases others with
    | nil => simp [ofPieces, hc, hr]
    | cons d more =>
      have ho := ih (by simp) (fun e he => hw e (by simp [he]))
      have hd : CharClass.next? ((d :: more).map .bare ++ rest) = some .word := by
        simp [CharClass.next?, hw d (by simp)]
      rw [List.map_cons, List.cons_append, ofPieces, hc]
      simp only [if_pos hd, ho, extend, String.toList_ofList]

theorem of_numeral {text : String} (hn : text ≠ "") (h : Numeral text)
    (hr : CharClass.next? rest ≠ some .word) :
    ofPieces (Piece.ofBare text ++ rest) = .word text :: ofPieces rest := by
  have hw : ∀ c ∈ text.toList, CharClass.of c = .word := fun c hc => CharClass.of_numeral (h c hc)
  have ho := of_word (by simpa using hn) hw hr
  rwa [String.ofList_toList] at ho

theorem mark_first (h : CharClass.next? rest = some .mark) :
    ∃ c tokens, ofPieces rest = .mark c :: tokens := by
  unfold CharClass.next? at h
  split at h
  · rename_i c others
    exact ⟨c, ofPieces others, by simp [ofPieces, Option.some.inj h]⟩
  · cases h

theorem of_comma (rest : List Piece) :
    ofPieces (Piece.ofBare "," ++ rest) = .mark ',' :: ofPieces rest := rfl

theorem of_close (rest : List Piece) :
    ofPieces (Piece.ofBare ")" ++ rest) = .mark ')' :: ofPieces rest := rfl

theorem extend_ne_nil (c : Char) {tokens : List Token} (h : tokens ≠ []) :
    extend c tokens ≠ [] := by
  cases tokens with
  | nil => exact absurd rfl h
  | cons first others => cases first <;> simp [extend]

theorem extend_append (c : Char) {tokens : List Token} (h : tokens ≠ []) (more : List Token) :
    extend c (tokens ++ more) = extend c tokens ++ more := by
  cases tokens with
  | nil => exact absurd rfl h
  | cons first others => cases first <;> rfl

/-- A character that is no blank is in some token. -/
theorem of_pieces_ne_nil {pieces : List Piece} {kind : CharClass}
    (h : CharClass.next? pieces = some kind) (hb : kind ≠ .blank) : ofPieces pieces ≠ [] := by
  induction pieces generalizing kind with
  | nil => cases h
  | cons piece others ih =>
    cases piece with
    | name text | literal text => cases h
    | bare c =>
      obtain rfl := Option.some.inj h
      rw [ofPieces]
      split
      · exact absurd ‹_› hb
      · simp
      · split
        · exact extend_ne_nil c (ih ‹_› (by decide))
        · simp
      · split
        · exact extend_ne_nil c (ih ‹_› (by decide))
        · simp

/-- A blank parts the tokens before it from those after it. -/
theorem of_blank (chars : List Char) (rest : List Piece) :
    ofPieces (chars.map .bare ++ .bare ' ' :: rest) =
      ofPieces (chars.map .bare) ++ ofPieces rest := by
  induction chars with
  | nil => rfl
  | cons c others ih =>
    have hnext (kind : CharClass) (hk : kind ≠ .blank) :
        CharClass.next? (others.map .bare ++ .bare ' ' :: rest) = some kind ↔
          CharClass.next? (others.map .bare) = some kind := by
      cases others with
      | nil =>
        have hblank : CharClass.of ' ' = .blank := rfl
        simp [CharClass.next?, hblank, Ne.symm hk]
      | cons d more => rfl
    -- a word or sign that goes on before the blank has a token there already
    have hextend (kind : CharClass) (hk : kind ≠ .blank)
        (h : CharClass.next? (others.map .bare) = some kind) :
        extend c (ofPieces (others.map .bare ++ .bare ' ' :: rest)) =
          extend c (ofPieces (others.map .bare)) ++ ofPieces rest := by
      rw [ih, extend_append c (of_pieces_ne_nil h hk)]
    rw [List.map_cons, List.cons_append, ofPieces, ofPieces]
    cases CharClass.of c with
    | blank => exact ih
    | mark => simp [ih]
    | sign =>
      by_cases hs : CharClass.next? (others.map .bare) = some .sign
      · simp [hnext, hs, hextend .sign (by decide) hs]
      · simp [hnext, hs, ih]
    | word =>
      by_cases hs : CharClass.next? (others.map .bare) = some .word
      · simp [hnext, hs, hextend .word (by decide) hs]
      · simp [hnext, hs, ih]

theorem skip_of_head {wanted : Token} {others tokens : List Token}
    (h : tokens.head? ≠ some wanted) : skip (wanted :: others) tokens = none := by
  cases tokens with
  | nil => rfl
  | cons first rest =>
    have hf : wanted ≠ first := fun he => h (by rw [he]; rfl)
    exact if_neg hf

end Token

/-! ### What is read -/

/-- A value as it stands in SQL. -/
inductive Operand where
  | null
  | text (value : String)
  | point (x y : String)
deriving Repr, DecidableEq

/-- A condition as it stands in SQL, with its columns as they are written. A group is a disjunction
of conjunctions. -/
inductive Reading where
  | compare (column operator : String) (value : Operand)
  | between (column : String) (low high : Operand)
  | member (column operator : String) (items : List Operand)
  | never
  | search (columns : List String) (value : Operand)
  | group (terms : List (List Reading))

namespace Reading

mutual

/-- The tests in what is read. -/
def tests : Reading → List Reading
  | never => []
  | group terms => testsAny terms
  | reading => [reading]

def testsAll : List Reading → List Reading
  | [] => []
  | reading :: rest => tests reading ++ testsAll rest

def testsAny : List (List Reading) → List Reading
  | [] => []
  | term :: rest => testsAll term ++ testsAny rest

end

open Token (skip)

def readColumn : List Token → Option (String × List Token)
  | .name first :: rest =>
    match skip [.word "."] rest with
    | some (.name column :: rest) =>
      some ("`" ++ first ++ "`" ++ "." ++ ("`" ++ column ++ "`"), rest)
    | _ => some ("`" ++ first ++ "`", rest)
  | _ => none

def readOperand : List Token → Option (Operand × List Token)
  | .literal text :: rest => some (.text text, rest)
  | .word "NULL" :: rest => some (.null, rest)
  | .word "POINT" :: .mark '(' :: .word x :: .mark ',' :: .word y :: .mark ')' :: rest =>
    some (.point x y, rest)
  | _ => none

/-- The longest run of what can be an operator, with a blank between neighbours. -/
def readOperator (tokens : List Token) : String × List Token :=
  (Text.joinWith " " ((tokens.takeWhile Token.isOperator).map Token.text),
    tokens.dropWhile Token.isOperator)

/-- One item or more with commas between them, up to the parenthesis that ends the list. -/
def readListed {α : Type} (readItem : List Token → Option (α × List Token)) :
    Nat → List Token → Option (List α × List Token)
  | 0, _ => none
  | fuel + 1, tokens => do
    let (first, rest) ← readItem tokens
    match skip [.mark ','] rest with
    | some rest =>
      let (others, rest) ← readListed readItem fuel rest
      return (first :: others, rest)
    | none => return ([first], ← skip [.mark ')'] rest)

section

variable (known : List String)

/-- What a column is compared with, after the operator. With one value it is compared by an operator
that is known. -/
def readCompared (fuel : Nat) (column operator : String) (tokens : List Token) :
    Option (Reading × List Token) :=
  if operator = "BETWEEN" then do
    let (low, rest) ← readOperand tokens
    let rest ← skip [.word "AND"] rest
    let (high, rest) ← readOperand rest
    return (.between column low high, rest)
  else if operator = "IN" ∨ operator = "NOT IN" then do
    let rest ← skip [.mark '('] tokens
    let (items, rest) ← readListed readOperand fuel rest
    return (.member column operator items, rest)
  else if operator ∈ known then do
    let (value, rest) ← readOperand tokens
    return (.compare column operator value, rest)
  else none

/-- A test of one column. -/
def readTest (fuel : Nat) (tokens : List Token) : Option (Reading × List Token) := do
  let (column, rest) ← readColumn tokens
  let (operator, rest) := readOperator rest
  readCompared known fuel column operator rest

/-- The columns of a search and what is searched for. -/
def readSearch (fuel : Nat) (tokens : List Token) : Option (Reading × List Token) := do
  let (columns, rest) ← readListed readColumn fuel tokens
  let rest ← skip [.word "AGAINST", .mark '('] rest
  let (value, rest) ← readOperand rest
  return (.search columns value, ← skip [.mark ')'] rest)

/-- The constant that no row passes. -/
def neverTokens : List Token := [.mark '(', .word "1", .sign "=", .word "2", .mark ')']

/-- The terms with one more factor in the first of them. -/
def conjoin (factor : Reading) : List (List Reading) → List (List Reading)
  | [] => [[factor]]
  | term :: terms => (factor :: term) :: terms

mutual

def readFactor : Nat → List Token → Option (Reading × List Token)
  | 0, _ => none
  | fuel + 1, tokens =>
    match skip neverTokens tokens with
    | some rest => some (.never, rest)
    | none =>
      match skip [.mark '('] tokens with
      | some inner => do
        let (terms, rest) ← readTerms fuel inner
        return (.group terms, ← skip [.mark ')'] rest)
      | none =>
        match skip [.word "MATCH", .mark '('] tokens with
        | some inner => readSearch fuel inner
        | none => readTest known fuel tokens

/-- Factors with connectives between them. After `AND` comes more of the same term, after `OR` the
next term. -/
def readTerms : Nat → List Token → Option (List (List Reading) × List Token)
  | 0, _ => none
  | fuel + 1, tokens => do
    let (factor, rest) ← readFactor fuel tokens
    match skip [.word "AND"] rest with
    | some rest =>
      let (terms, rest) ← readTerms fuel rest
      return (conjoin factor terms, rest)
    | none =>
      match skip [.word "OR"] rest with
      | some rest =>
        let (terms, rest) ← readTerms fuel rest
        return ([factor] :: terms, rest)
      | none => return ([[factor]], rest)

end

/-- Reads a whole text. A text with nothing in it has no terms. -/
def read (style : Quoting) (text : String) : Option (List (List Reading)) := do
  let pieces ← Scanner.scan style text
  if pieces.isEmpty then return []
  else
    let (terms, rest) ← readTerms known (pieces.length + 1) (Token.ofPieces pieces)
    if rest.isEmpty then return terms else none

end

/-- An operator that can be read as it is written: words and signs that can be parts of one, with a
blank between neighbours. -/
structure WellSpelled (operator : String) : Prop where
  some_token : Token.ofPieces (Piece.ofBare operator) ≠ []
  each : ∀ token ∈ Token.ofPieces (Piece.ofBare operator), token.isOperator = true
  spaced : Text.joinWith " " ((Token.ofPieces (Piece.ofBare operator)).map Token.text) = operator

instance (operator : String) : Decidable (WellSpelled operator) :=
  decidable_of_iff (_ ∧ _ ∧ _) ⟨fun ⟨h, he, hs⟩ => ⟨h, he, hs⟩, fun h => ⟨h.1, h.2, h.3⟩⟩

end Reading

end SqlBuilder
