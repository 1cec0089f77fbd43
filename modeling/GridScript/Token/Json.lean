import GridScript.Json
import GridScript.Token

/-!
# Tokens as JSON

* `Token.toJson` writes a token: its kind and its text.
-/

namespace GridScript

namespace Token

/-- The name of the kind of a token. -/
def kind : Token → String
  | mark _ => "punct"
  | quoted _ => "str"
  | word _ => "word"

/-- The text of a token, for a quoted one without its quotes. -/
def text : Token → String
  | mark m => m.spelling
  | quoted s => s
  | word w => w

/-- **A token as JSON.** -/
def toJson (t : Token) : Json :=
  .record [("kind", .text t.kind), ("text", .text t.text)]

end Token

end GridScript
