import PrefixCalc.Parser

/-!
# Tokens as they come from texts

A token that comes from a text has the kind of its word (`Token.scan_lexed`). What
the kind promises about the word is what the parser relies on: every word of a
literal can be read, every symbol has its operator or constant, and a name is no
reserved word (`Kind.fits_of_ofWord?`). No reserved word is a numeral
(`Kind.ofText?_of_mem_reservedWords`).
-/

namespace PrefixCalc

/-- Whether a token has the kind of its word. -/
def Token.Lexed (token : Token) : Prop :=
  Kind.ofWord? token.lexeme = some token.kind

instance (token : Token) : Decidable token.Lexed :=
  inferInstanceAs (Decidable (_ = _))

/-! ## Reserved words -/

namespace Kind

/-- The words that have a kind of their own. -/
def reservedWords : List String :=
  BinaryOp.all.map BinaryOp.symbol ++ UnaryOp.all.map UnaryOp.symbol ++
    Constant.all.map Constant.symbol ++ keywords.map Prod.fst

/-- A word that is found to be reserved is one of the reserved words. -/
theorem mem_reservedWords {word : String} {kind : Kind} (found : ofReserved? word = some kind) :
    word ∈ reservedWords := by
  have named {α : Type} {entries : List α} {name : α → String}
      (isSome : (entries.find? fun entry => name entry == word).isSome = true) :
      word ∈ entries.map name := by
    obtain ⟨entry, listed, same⟩ := List.find?_isSome.mp isSome
    exact List.mem_map.mpr ⟨entry, listed, beq_iff_eq.mp same⟩
  unfold reservedWords
  simp only [List.mem_append]
  unfold ofReserved? at found
  split at found
  · rename_i binary
    exact .inl (.inl (.inl (named binary)))
  · split at found
    · rename_i unary
      exact .inl (.inl (.inr (named unary)))
    · split at found
      · rename_i constant
        exact .inl (.inr (named constant))
      · obtain ⟨before, after, split, -⟩ := List.lookup_eq_some_iff.mp found
        have listed : (word, kind) ∈ keywords := by simp [split]
        exact .inr (List.mem_map.mpr ⟨(word, kind), listed, rfl⟩)

/-- No reserved word is a numeral. -/
theorem ofText?_of_mem_reservedWords :
    ∀ word ∈ reservedWords, Double.Numeral.ofText? word.toList = none := by
  decide +kernel

end Kind

/-- A numeral is the literal of its value. -/
theorem Parser.literalValue?_of_numeral {word : String} {numeral : Double.Numeral}
    (read : Double.Numeral.ofText? word.toList = some numeral) :
    literalValue? word = some (.number numeral.value) := by
  have differs {reserved : String} (listed : reserved ∈ Kind.reservedWords) : word ≠ reserved := by
    intro same
    have unreadable := Kind.ofText?_of_mem_reservedWords reserved listed
    rw [← same, read] at unreadable
    cases unreadable
  unfold literalValue?
  rw [if_neg (differs (by decide)), if_neg (differs (by decide)), read]
  rfl

/-! ## Kinds -/

namespace Kind

/-- What a kind promises about a word. -/
def Fits : Kind → String → Prop
  | .literal, word => (Parser.literalValue? word).isSome = true
  | .constant, word => (Constant.ofSymbol? word).isSome = true
  | .binaryOp, word => (BinaryOp.ofSymbol? word).isSome = true
  | .unaryOp, word => (UnaryOp.ofSymbol? word).isSome = true
  | .special, word => word = "xprint"
  | .identifier, word => isReserved word = false
  | .foreign _, _ => False
  | _, _ => True

/-- Every keyword fits its kind. -/
theorem fits_of_mem_keywords {entry : String × Kind} (listed : entry ∈ keywords) :
    entry.2.Fits entry.1 := by
  simp only [keywords, List.mem_cons, List.not_mem_nil, or_false] at listed
  rcases listed with rfl | rfl | rfl | rfl | rfl | rfl | rfl | rfl | rfl | rfl | rfl | rfl | rfl |
    rfl <;> simp [Fits, Parser.literalValue?]

/-- Every reserved word fits its kind. -/
theorem fits_of_ofReserved? {word : String} {kind : Kind} (found : ofReserved? word = some kind) :
    kind.Fits word := by
  unfold ofReserved? at found
  split at found
  · rename_i isSome
    cases found
    exact isSome
  · split at found
    · rename_i isSome
      cases found
      exact isSome
    · split at found
      · rename_i isSome
        cases found
        exact isSome
      · obtain ⟨before, after, split, -⟩ := List.lookup_eq_some_iff.mp found
        have listed : (word, kind) ∈ keywords := by simp [split]
        exact fits_of_mem_keywords listed

/-- The word of a numeral can be read. -/
theorem literalValue?_isSome_of_isNumeral {word : String} (numeral : isNumeral word = true) :
    (Parser.literalValue? word).isSome = true := by
  have readable := (Bool.and_eq_true_iff.mp numeral).2
  obtain ⟨spelled, read⟩ := Option.isSome_iff_exists.mp readable
  rw [Parser.literalValue?_of_numeral read, Option.isSome_some]

/-- Every word fits its kind. -/
theorem fits_of_ofWord? {word : String} {kind : Kind} (found : ofWord? word = some kind) :
    kind.Fits word := by
  unfold ofWord? at found
  split at found
  · rename_i reserved isReserved
    cases found
    exact fits_of_ofReserved? isReserved
  · rename_i free
    split at found
    · rename_i numeral
      cases found
      exact literalValue?_isSome_of_isNumeral numeral
    · split at found
      · cases found
        show isReserved word = false
        rw [isReserved, free]
        rfl
      · cases found

end Kind

namespace Token

/-- The word of a token fits its kind. -/
theorem Lexed.fits {token : Token} (lexed : token.Lexed) : token.kind.Fits token.lexeme :=
  Kind.fits_of_ofWord? lexed

/-- A name is no reserved word. -/
theorem Lexed.free {token : Token} (lexed : token.Lexed) (named : token.kind = .identifier) :
    Kind.isReserved token.lexeme = false := by
  have fits := lexed.fits
  rw [named] at fits
  exact fits

/-- The only special word is the one that prints. -/
theorem Lexed.print {token : Token} (lexed : token.Lexed) (special : token.kind = .special) :
    token.lexeme = "xprint" := by
  have fits := lexed.fits
  rw [special] at fits
  exact fits

/-- The tokens of some segments have the kinds of their words. -/
theorem ofSegments_lexed {column : Nat} {segments : List Text.Segment} {tokens : List Token}
    (scanned : ofSegments column segments = .ok tokens) : ∀ token ∈ tokens, token.Lexed := by
  fun_induction ofSegments column segments generalizing tokens with
  | case1 column =>
    cases scanned
    exact fun _ inside => absurd inside List.not_mem_nil
  | case2 column character rest layout ih => exact ih scanned
  | case3 column character rest refused => cases scanned
  | case4 column letters rest word => cases scanned
  | case5 column letters rest word kind known =>
    rename_i ih
    cases later : ofSegments (column + letters.length) rest with
    | error error =>
      rw [later] at scanned
      cases scanned
    | ok others =>
      rw [later] at scanned
      cases scanned
      intro token inside
      rcases List.mem_cons.mp inside with rfl | inside
      · exact known
      · exact ih later token inside

/-- The tokens of a text have the kinds of their words. -/
theorem scan_lexed {text : String} {tokens : List Token} (scanned : scan text = .ok tokens) :
    ∀ token ∈ tokens, token.Lexed :=
  ofSegments_lexed scanned

end Token

end PrefixCalc
