import StylePrune.Fetch.Download
import StylePrune.Url.Parse

/-!
How the body of a reply is sent, and what arrives of it.
-/
namespace StylePrune.Fetch

/-- How the end of a body is told. -/
inductive Framing where
  /-- The length is declared. -/
  | length (declared : Nat)
  /-- Each piece is sent with its length, and the end is marked. -/
  | chunked
  /-- The body ends with the connection. -/
  | close
deriving DecidableEq, Repr

/-- A reply as it is sent. -/
structure Transfer where
  status : Nat
  framing : Framing
  chunks : List (List UInt8)

namespace Transfer

/-- Replies of this status have no body. -/
def hasNoBody (status : Nat) : Bool := status == 101 || status == 204 || status == 304

/-- A reply of this status only announces another one. -/
def isInterim (status : Nat) : Bool := 100 ≤ status && status < 200 && status != 101

/-- The greatest length that can be declared. -/
def maxDeclared : Nat := Nat.pow 2 64 - 3

/-- The reply that arrives, if one does. A body that is longer than declared is cut, and one that is
shorter ends in a failure. -/
def response? (t : Transfer) : Option Response :=
  if t.status < 100 || 1000 ≤ t.status || isInterim t.status then none
  else
    match t.framing with
    | .length declared =>
      if maxDeclared < declared then none
      else if hasNoBody t.status then some ⟨t.status, none, [], false⟩
      else
        let body := t.chunks.flatten
        some ⟨t.status, some declared, [body.take declared], body.length < declared⟩
    | .chunked => some ⟨t.status, none, if hasNoBody t.status then [] else t.chunks, false⟩
    | .close => some ⟨t.status, none, if hasNoBody t.status then [] else [t.chunks.flatten], false⟩

/-- The text that a transfer brings. -/
def text (limit : Nat) (t : Transfer) : Except DownloadFault Text :=
  match t.response? with
  | some r => r.text limit
  | none => .error .noReply

end Transfer

/-! ## Requests that are never sent -/

/-- Why a request for an address that cannot be read is not sent, with what was being done. -/
def refusal (kind : Kind) (fault : Url.Fault) : Cause :=
  [fault.text, "builder error".toList, DownloadFault.message kind .noReply]

/-- A network without a connection: no request is ever answered. -/
def disconnected : Network := fun kind url =>
  match Url.parse url with
  | .error f => ⟨0, .error (refusal kind f)⟩
  | .ok _ => ⟨0, .error ["not connected".toList, DownloadFault.message kind .noReply]⟩

end StylePrune.Fetch
