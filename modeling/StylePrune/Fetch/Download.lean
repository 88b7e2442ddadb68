import StylePrune.Fetch.Network
import StylePrune.Fetch.Status
import StylePrune.Text.Utf8

/-!
Downloads of texts of a limited size.

The size is checked twice: against the length that the reply declares, and against what has arrived,
since the declared length may be left out or wrong. Never more bytes are kept than the limit allows.
-/
namespace StylePrune.Fetch

/-- A reply over the web. -/
structure Response where
  status : Nat
  /-- The length that is declared, in bytes. -/
  declared : Option Nat
  /-- The pieces in which the body arrives. -/
  chunks : List (List UInt8)
  /-- Reading fails after these pieces. -/
  isBroken : Bool

/-- Why there is no text. -/
inductive DownloadFault where
  /-- There was no reply. -/
  | noReply
  | badStatus (status : Nat)
  | tooLarge (size limit : Nat)
  | overLimit (size limit : Nat)
  | broken
  | notUtf8
deriving DecidableEq, Repr

/-- What is said about a fault in a download. -/
def DownloadFault.message (kind : Kind) : DownloadFault → Text
  | noReply => "Failed to download ".toList ++ kind.name
  | badStatus status => kind.name ++ " download failed with status: ".toList ++ statusText status
  | tooLarge size limit =>
    kind.name ++ " too large: ".toList ++ Text.ofNat size ++ " bytes exceeds limit of ".toList ++
      Text.ofNat limit ++ " bytes".toList
  | overLimit size limit =>
    kind.name ++ " exceeded size limit during download: ".toList ++ Text.ofNat size ++
      " bytes (max: ".toList ++ Text.ofNat limit ++ [')']
  | broken => "Failed to read ".toList ++ kind.name ++ " chunk".toList
  | notUtf8 => kind.name ++ " is not valid UTF-8".toList

/-- Adds pieces to what has been kept as long as the limit allows. -/
def collect (limit : Nat) : (kept : List UInt8) → List (List UInt8) → Except DownloadFault (List UInt8)
  | kept, [] => .ok kept
  | kept, chunk :: r =>
    let size := kept.length + chunk.length
    if limit < size then .error (.overLimit size limit) else collect limit (kept ++ chunk) r

/-- A text without the mark that may start it. -/
def dropMark : Text → Text
  | '\uFEFF' :: r => r
  | s => s

/-- The text of a reply whose body may have so many bytes. -/
def Response.text (limit : Nat) (r : Response) : Except DownloadFault Text :=
  if !isSuccess r.status then .error (.badStatus r.status)
  else if limit < r.declared.getD 0 then .error (.tooLarge (r.declared.getD 0) limit)
  else
    match collect limit [] r.chunks with
    | .error f => .error f
    | .ok bytes =>
      if r.isBroken then .error .broken
      else
        match Text.ofBytes? bytes with
        | some s => .ok (dropMark s)
        | none => .error .notUtf8

/-! ## What is sent with a request -/

/-- The types that a request accepts. -/
def Kind.accept : Kind → Text
  | page => "text/html,application/xhtml+xml,*/*;q=0.8".toList
  | stylesheet => "text/css,*/*;q=0.1".toList

/-- The name under which requests are made. Some servers have no stylesheets for names they do not know. -/
def userAgent : Text :=
  ("Mozilla/5.0 (Windows NT 10.0; Win64; x64) AppleWebKit/537.36 (KHTML, like Gecko) " ++
    "Chrome/132.0.6834.160 Safari/537.36").toList

end StylePrune.Fetch
