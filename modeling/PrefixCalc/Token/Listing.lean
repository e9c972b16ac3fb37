import PrefixCalc.Text.Column
import PrefixCalc.Token

/-!
# Token listings

Tokens as a table of three columns: column, kind and word.
-/

namespace PrefixCalc.Token

/-- One row of the table. -/
def row (column kind word : String) : String :=
  Text.padRight 7 column ++ "| " ++ Text.padRight 12 kind ++ "| " ++ word

/-- The table of some tokens, line by line. -/
def listing : List Token → List String
  | [] => ["No tokens found!"]
  | tokens =>
    row "Column" "Token" "Value" :: Text.rule 40 ::
      tokens.map fun token => row (toString token.column) token.kind.name token.lexeme

end PrefixCalc.Token
