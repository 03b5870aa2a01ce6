import BuildTransform.Yaml.Value

/-!
# Documents of YAML

Reading a YAML text that holds at most one document.

* Control characters and a few other code points may not occur at all.
* A text without a document denotes nothing.
-/

namespace BuildTransform
namespace Yaml

/-- The character may occur in a text. -/
def isAllowed (c : Char) : Bool :=
  let n := c.toNat
  n == 9 || n == 10 || n == 13 || (0x20 ≤ n && n ≤ 0x7E) || n == 0x85 ||
    (0xA0 ≤ n && n ≤ 0xFFFD) || 0x10000 ≤ n

/-- The value of the document in a text. -/
def read (text : String) : Except DocumentFailure Value := do
  if text.toList.all isAllowed then
    let ts := tokens text
    match ← Node.ofTokens ts with
    | none => .ok .null
    | some n => n.toValue (ts.length + 2)
  else malformed

end Yaml
end BuildTransform
