import Tenancy.Proofs.Text.Base64
import Tenancy.Proofs.Text.Utf8
import Tenancy.Proofs.Web.Url
import Tenancy.Web.Script

/-!
The account that a request tells, as a server reads it. A name without a colon and any password are
read as they are.
-/

namespace Tenancy.Web

def HttpRequest.authorizations (request : HttpRequest) : List String :=
  request.credentials.map basicAuthorization

def without? (word text : List Char) : Option (List Char) :=
  if text.take word.length = word then some (text.drop word.length) else none

/-- The name and the password that a header field tells. The first colon ends the name. -/
def account? (header : String) : Option (String × String) := do
  let encoded ← without? "Basic ".toList header.toList
  let bytes ← Text.Base64.decode? encoded
  let text ← String.fromUTF8? ⟨bytes.toArray⟩
  let (name, password) := Url.splitOff ':' text.toList
  return (String.ofList name, String.ofList (← password))

theorem without?_append (word text : List Char) : without? word (word ++ text) = some text := by
  rw [without?, List.take_left, if_pos rfl, List.drop_left]

theorem account?_basicAuthorization {name : String} (plain : ':' ∉ name.toList)
    (password : String) : account? (basicAuthorization (name, password)) = some (name, password) := by
  let text := name ++ ":" ++ password
  have encoded : (basicAuthorization (name, password)).toList =
      "Basic ".toList ++ Text.Base64.encode (text.toList.flatMap String.utf8EncodeChar) := by
    rw [basicAuthorization, Text.Utf8.toUTF8_toList, String.toList_append]
    exact congrArg ("Basic ".toList ++ ·) String.toList_ofList
  have parts : text.toList = name.toList ++ (':' :: password.toList) := by
    simp [text, String.toList_append]
  have split : Url.splitOff ':' text.toList = (name.toList, some password.toList) := by
    rw [parts, Url.splitOff_append plain]
    simp [Url.splitOff]
  simp only [account?, encoded, without?_append, Text.Base64.decode?_encode,
    Text.Utf8.fromUTF8?_encode, split, Option.bind_eq_bind, Option.bind_some, Option.pure_def,
    String.ofList_toList]

end Tenancy.Web
