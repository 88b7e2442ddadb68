import StylePrune.Proofs.Fetch.Download
import StylePrune.Proofs.Sheet.UrlTokens
import StylePrune.Resolution.Stylesheet

/-!
The same stylesheet from a download and from a local file.

A body that arrives whole and in time is the text that its bytes write, without a byte order mark at its start
(`World.Arrives.resolve`). A local file is the text with the mark (`World.resolve_override`). The two links come to
the same stylesheet, or fail alike, unless there is a mark: then the file keeps it, and what follows it counts as
no declaration of the character set (`World.resolve_arrives_override`).
-/
namespace StylePrune

namespace Sheet

theorem urlTokens_dropMark (s : Text) : urlTokens (Fetch.dropMark s) = urlTokens s := by
  rcases head?_ne_or_eq_mark s with h | ⟨t, rfl⟩
  · rw [Fetch.dropMark_of_head h]
  · exact (urlTokens_cons_of_ne t (by decide)).symm

theorem isPlausible_dropMark (s : Text) : isPlausible (Fetch.dropMark s) = isPlausible s := by
  rcases head?_ne_or_eq_mark s with h | ⟨t, rfl⟩
  · rw [Fetch.dropMark_of_head h]
  · rfl

theorem dropQuoted?_length {s t : Text} (h : dropQuoted? s = some t) : t.length ≤ s.length := by
  cases s with
  | nil => cases h
  | cons q r =>
    rw [dropQuoted?] at h
    split at h
    · have hdrop := (List.dropWhile_suffix (l := r) (· != q)).length_le
      split at h
      · next c u hu =>
        cases h
        rw [hu] at hdrop
        simp only [List.length_cons] at hdrop ⊢
        omega
      · cases h
    · cases h

theorem dropCharset?_length {s t : Text} (h : dropCharset? s = some t) : t.length ≤ s.length := by
  rw [dropCharset?] at h
  split at h
  · cases h
  · next w r hword =>
    have hstart := (List.dropWhile_suffix (l := s) Text.isBlank).length_le
    have hrest := Text.dropFolded?_length hword
    have hgap := (List.dropWhile_suffix (l := r) Text.isBlank).length_le
    split at h
    · split at h
      · cases h
      · next t' hquoted =>
        have hname := dropQuoted?_length hquoted
        have hend := (List.dropWhile_suffix (l := t') Text.isBlank).length_le
        split at h
        · next u hu =>
          cases h
          rw [hu, List.length_cons] at hend
          omega
        · cases h
    · cases h

theorem stripCharset_length (s : Text) : (stripCharset s).length ≤ s.length := by
  rw [stripCharset]
  cases h : dropCharset? s with
  | none => exact Nat.le_refl _
  | some t => exact dropCharset?_length h

/-- Behind a mark there is no declaration of the character set. -/
theorem stripCharset_mark (s : Text) : stripCharset (byteOrderMark :: s) = byteOrderMark :: s := by
  have hnone : dropCharset? (byteOrderMark :: s) = none := rfl
  rw [stripCharset, hnone]
  rfl

/-- The mark makes a difference to what is left of a text. -/
theorem stripCharset_dropMark_eq_iff {s : Text} :
    stripCharset (Fetch.dropMark s) = stripCharset s ↔ s.head? ≠ some byteOrderMark := by
  rcases head?_ne_or_eq_mark s with h | ⟨t, rfl⟩
  · rw [Fetch.dropMark_of_head h]
    exact iff_of_true rfl h
  · refine iff_of_false (fun heq => ?_) (fun h => h rfl)
    have hlength := stripCharset_length t
    rw [Fetch.dropMark_mark, stripCharset_mark] at heq
    rw [heq, List.length_cons] at hlength
    omega

end Sheet

/-! ## Whole bodies -/

namespace Fetch

/-- A reply that succeeds and brings a body whole, in pieces of any size. -/
structure Response.Brings (r : Response) (body : List UInt8) : Prop where
  status : r.status = 200
  declared : r.declared = none ∨ r.declared = some body.length
  chunks : r.chunks.flatten = body
  unbroken : r.isBroken = false

theorem Response.Brings.text {r : Response} {body : List UInt8} {limit : Nat} {s : Text} (h : r.Brings body)
    (hsize : body.length ≤ limit) (htext : Text.ofBytes? body = some s) : r.text limit = .ok (dropMark s) := by
  have hbody : r.body = body := h.chunks
  have hdeclared : ∀ n ∈ r.declared, n ≤ limit := by
    intro n hn
    rcases h.declared with hnone | hsome
    · rw [hnone] at hn
      cases hn
    · rw [hsome] at hn
      cases hn
      exact hsize
  have hadmitted : r.Admitted limit := ⟨by rw [h.status]; decide, hdeclared⟩
  rw [hadmitted.text_of_size (by rwa [hbody]), hbody, h.unbroken, htext]
  rfl

end Fetch

/-! ## The two sources -/

namespace Resolution

theorem forMedium_inj {media : Option Text} {s t : Text} : forMedium media s = forMedium media t ↔ s = t := by
  cases media with
  | none => exact Iff.rfl
  | some c => exact (List.append_left_inj ['\n', '}']).trans (List.append_right_inj _)

namespace World

/-- The stylesheet of an address arrives: a reply brings the body whole and in time, and it is not too large. -/
structure Arrives (w : World) (url : Text) (body : List UInt8) : Prop where
  inTime : (w.replyFor url).delay ≤ w.config.timeout * 1000
  size : body.length ≤ w.config.maxStylesheetBytes
  reply : ∃ (r : Fetch.Response) (cause : Fetch.DownloadFault → Cause), r.Brings body ∧
    (w.replyFor url).outcome = (r.text w.config.maxStylesheetBytes).mapError cause

variable {w v : World} {l : Page.StyleLink} {o : Override} {body : List UInt8} {s : Text}

theorem Arrives.resolve (h : w.Arrives l.url body) (hown : w.overrideOf? l.url = none)
    (htext : Text.ofBytes? body = some s)
    (hurls : ∀ u ∈ Sheet.urlTokens s, Sheet.isDotRelative u.path = false) :
    w.resolve l = Stylesheet.ofText l .remote l.url (Fetch.dropMark s) := by
  obtain ⟨r, cause, hbrings, houtcome⟩ := h.reply
  have hreply : (w.replyFor l.url).within w.config.timeout = .ok (Fetch.dropMark s) := by
    rw [Fetch.Reply.within, if_pos h.inTime, houtcome, hbrings.text h.size htext]
    rfl
  rw [← Sheet.urlTokens_dropMark] at hurls
  simp only [World.resolve, hown, download, hreply, Sheet.absolutize_eq_self hurls]

theorem resolve_override (ho : v.overrideOf? l.url = some o) (hfile : v.files.read o.path = .ok body)
    (htext : Text.ofBytes? body = some s) : v.resolve l = Stylesheet.ofText l .localOverride o.path s := by
  have hread : v.files.readText o.path = .ok s := by
    simp only [Files.Tree.readText, hfile, htext]
  simp only [World.resolve, ho, readOverride, hread]

/-- **When a local file comes to what a download comes to.** For the same bytes, without paths that are relative to
the stylesheet, a link is no stylesheet in one case exactly if it is none in the other. If it is one, all but its
text and its origin are the same, and the text is the same exactly if it does not start with a byte order mark. -/
theorem resolve_arrives_override (harrives : w.Arrives l.url body) (hown : w.overrideOf? l.url = none)
    (ho : v.overrideOf? l.url = some o) (hfile : v.files.read o.path = .ok body)
    (htext : Text.ofBytes? body = some s)
    (hurls : ∀ u ∈ Sheet.urlTokens s, Sheet.isDotRelative u.path = false) :
    (Sheet.isPlausible s = false →
        w.resolve l = .error (.invalidCss l.url) ∧ v.resolve l = .error (.invalidCss o.path)) ∧
      (Sheet.isPlausible s = true → ∃ a b, w.resolve l = .ok a ∧ v.resolve l = .ok b ∧
        a = { b with css := a.css, origin := .remote } ∧ (a.css = b.css ↔ s.head? ≠ some byteOrderMark)) := by
  rw [harrives.resolve hown htext hurls, resolve_override ho hfile htext]
  simp only [Stylesheet.ofText, Sheet.isPlausible_dropMark]
  constructor
  · intro h
    rw [h]
    exact ⟨rfl, rfl⟩
  · intro h
    rw [h]
    refine ⟨_, _, rfl, rfl, rfl, ?_⟩
    rw [forMedium_inj]
    exact Sheet.stripCharset_dropMark_eq_iff

end World

def sheetLink : Page.StyleLink := ⟨"https://host/a.css".toList, none⟩

/-- A world without local files in which every reply brings a body in two pieces. -/
def downloading (body : List UInt8) : World where
  config := .usual
  files := .empty
  network := fun kind _ => ⟨250, (Fetch.Response.text Config.usualStylesheetBytes
    ⟨200, some body.length, [body.take 2, body.drop 2], false⟩).mapError fun f => [f.message kind]⟩

/-- A world without replies in which a local file stands in for the stylesheet. -/
def overriding (body : List UInt8) : World where
  config := { Config.usual with overrides := [⟨"a.css".toList, "local/a.css".toList⟩] }
  files := ⟨["work".toList], [(["work".toList, "local".toList], .directory),
    (["work".toList, "local".toList, "a.css".toList], .file body)]⟩
  network := fun _ _ => ⟨0, .error ["refused".toList]⟩

theorem arrives_downloading {body : List UInt8} (h : body.length ≤ Config.usualStylesheetBytes) :
    (downloading body).Arrives sheetLink.url body where
  inTime := show 250 ≤ 30 * 1000 by decide
  size := h
  reply := ⟨_, _, ⟨rfl, .inr rfl, by simp, rfl⟩, rfl⟩

theorem overrideOf?_overriding (body : List UInt8) :
    (overriding body).overrideOf? sheetLink.url = some ⟨"a.css".toList, "local/a.css".toList⟩ := rfl

theorem read_overriding (body : List UInt8) : (overriding body).files.read "local/a.css".toList = .ok body := rfl

def bareSheet : Text := "a\x7b\x7d".toList

theorem urlTokens_mark_bareSheet : Sheet.urlTokens (byteOrderMark :: bareSheet) = [] :=
  Sheet.urlTokens_eq_nil rfl

/-- Without a mark both links come to the same text. -/
theorem resolve_arrives_override_bareSheet :
    (downloading (Text.toBytes bareSheet)).Arrives sheetLink.url (Text.toBytes bareSheet) ∧
      (downloading (Text.toBytes bareSheet)).overrideOf? sheetLink.url = none ∧
      (overriding (Text.toBytes bareSheet)).overrideOf? sheetLink.url =
        some ⟨"a.css".toList, "local/a.css".toList⟩ ∧
      (overriding (Text.toBytes bareSheet)).files.read "local/a.css".toList = .ok (Text.toBytes bareSheet) ∧
      ∃ a b, (downloading (Text.toBytes bareSheet)).resolve sheetLink = .ok a ∧
        (overriding (Text.toBytes bareSheet)).resolve sheetLink = .ok b ∧
        a = { b with css := a.css, origin := .remote } ∧
        (a.css = b.css ↔ bareSheet.head? ≠ some byteOrderMark) := by
  have harrives := arrives_downloading (show (Text.toBytes bareSheet).length ≤ _ by decide)
  have hurls : Sheet.urlTokens bareSheet = [] := Sheet.urlTokens_eq_nil rfl
  exact ⟨harrives, rfl, overrideOf?_overriding _, read_overriding _,
    (World.resolve_arrives_override harrives rfl (overrideOf?_overriding _) (read_overriding _)
      (Text.ofBytes?_toBytes bareSheet) (by rw [hurls]; simp)).2 rfl⟩

/-- **A local file keeps its byte order mark.** The bytes of a mark and a rule are a text without any address in it
that is small enough. Downloaded it is the rule, and as a local file it is the mark and the rule. -/
theorem resolve_ne_of_mark :
    (downloading (Text.toBytes (byteOrderMark :: bareSheet))).Arrives sheetLink.url
        (Text.toBytes (byteOrderMark :: bareSheet)) ∧
      (overriding (Text.toBytes (byteOrderMark :: bareSheet))).files.read "local/a.css".toList =
        .ok (Text.toBytes (byteOrderMark :: bareSheet)) ∧
      Text.ofBytes? (Text.toBytes (byteOrderMark :: bareSheet)) = some (byteOrderMark :: bareSheet) ∧
      Sheet.urlTokens (byteOrderMark :: bareSheet) = [] ∧
      ((downloading (Text.toBytes (byteOrderMark :: bareSheet))).resolve sheetLink).map Stylesheet.css =
        .ok bareSheet ∧
      ((overriding (Text.toBytes (byteOrderMark :: bareSheet))).resolve sheetLink).map Stylesheet.css =
        .ok (byteOrderMark :: bareSheet) := by
  have harrives : (downloading (Text.toBytes (byteOrderMark :: bareSheet))).Arrives sheetLink.url _ :=
    arrives_downloading (by decide)
  have htext := Text.ofBytes?_toBytes (byteOrderMark :: bareSheet)
  have hurls : ∀ u ∈ Sheet.urlTokens (byteOrderMark :: bareSheet), Sheet.isDotRelative u.path = false := by
    rw [urlTokens_mark_bareSheet]
    simp
  rw [harrives.resolve rfl htext hurls, World.resolve_override (overrideOf?_overriding _) (read_overriding _) htext]
  exact ⟨harrives, read_overriding _, htext, urlTokens_mark_bareSheet, rfl, rfl⟩

end Resolution
end StylePrune
