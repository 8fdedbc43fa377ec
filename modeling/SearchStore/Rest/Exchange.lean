import SearchStore.Json.Printer
import SearchStore.Envelope.Encode

/-!
Requests and responses. The body of a request is a run of octets, after which its transport may
fail; it is read as a text up to a limit on its size.
-/

set_option autoImplicit false

namespace SearchStore.Rest

inductive Verb where
  | get
  | head
  | post
  | put
  | delete
  | other (name : String)
deriving DecidableEq, Repr

def Verb.ofName (name : String) : Verb :=
  if name = "GET" then .get
  else if name = "HEAD" then .head
  else if name = "POST" then .post
  else if name = "PUT" then .put
  else if name = "DELETE" then .delete
  else .other name

structure Body where
  octets : List Nat
  failure : Option String
deriving DecidableEq, Repr

def Body.ofText (text : String) : Body := ⟨Text.encodeUtf8 text.toList, none⟩

structure Request where
  verb : Verb
  path : String
  body : Body
deriving DecidableEq, Repr

inductive Refusal where
  | store (e : Failure)
  | noSuchType (index type : String)
  | bodyTooLong
deriving DecidableEq, Repr

def bufferFault (text : String) : String := "Failed to buffer the request body: " ++ text

namespace Refusal

def wireType : Refusal → String
  | .store e => e.wireType
  | .noSuchType _ _ => "resource_not_found_exception"
  | .bodyTooLong => "content_too_long_exception"

def status : Refusal → Nat
  | .store e => e.status
  | .noSuchType _ _ => 404
  | .bodyTooLong => 413

def reason : Refusal → String
  | .store e => e.reason
  | .noSuchType index type => "no such type [" ++ index ++ "/" ++ type ++ "]"
  | .bodyTooLong => "Request body exceeds " ++ bufferFault "length limit exceeded"

def envelope (r : Refusal) : ErrorEnvelope := .ofParts r.wireType r.reason r.status

end Refusal

def Body.read (limit : Nat) (b : Body) : Except Refusal String :=
  if limit < b.octets.length then .error .bodyTooLong
  else
    match b.failure with
    | some text => .error (.store (.transport (bufferFault text)))
    | none =>
        match Text.decodeUtf8 b.octets with
        | .ok text => .ok (String.ofList text)
        | .error fault => .error (.store (.malformedInput (.notUtf8 fault)))

inductive Content where
  | nothing
  | json (v : Json)
  | text (s : String)
deriving DecidableEq

structure Response where
  status : Nat
  content : Content
deriving DecidableEq

namespace Response

def bare (status : Nat) : Response := ⟨status, .nothing⟩

def json (status : Nat) (v : Json) : Response := ⟨status, .json v⟩

def refused (r : Refusal) : Response := json r.status r.envelope.toJson

def undecodable (noun : String) : Response :=
  ⟨400, .text ("Invalid URL: Invalid UTF-8 in `" ++ noun ++ "`")⟩

def withoutContent (r : Response) : Response := { r with content := .nothing }

end Response

end SearchStore.Rest
