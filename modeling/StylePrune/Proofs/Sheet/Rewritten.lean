import StylePrune.Proofs.Sheet.Written
import StylePrune.Proofs.Url.Resolve

/-!
What rewriting relative paths makes of a stylesheet.

Against an address, each token with a relative path is written again with what the path leads to, and everything else
stays (`absolutize_joinTo`). What comes out reads as the same tokens again exactly if each path that was put in fits
the quotes around it (`Written.isReading_iff`), and then a second rewriting changes nothing
(`absolutize_absolutize`). An address may have quotes and parentheses in its host and its path, which are no less
special in a stylesheet. So all stylesheets read as before exactly if the directory of the address could be written
without quotes (`isReading_absolutize_iff`).
-/
namespace StylePrune.Sheet

variable {address p : Text} {u : Url} {a : Url.Authority} {ss : List Text} {w : Written} {join : Text → Option Text}

/-! ## Rewriting against an address -/

/-- What a path leads to from an address, as it is written. -/
def joined (u : Url) (p : Text) : Option Text := (Url.resolve? u p).map Url.text

theorem joinTo_of_ok (h : Url.parse address = .ok u) : Url.joinTo address = joined u := by
  funext p
  rw [Url.joinTo, h]
  rfl

theorem joinTo_of_error {fault : Url.Fault} (h : Url.parse address = .error fault) :
    Url.joinTo address = fun _ => none := by
  funext p
  rw [Url.joinTo, h]

/-- **What rewriting does.** Against an address, the tokens with relative paths are written again, with what their
paths lead to in the same quotes; the other tokens and all that stands between them are left as they are. Against a
text that is no address every stylesheet is left as it is. -/
theorem absolutize_joinTo (address : Text) :
    (∀ u, Url.parse address = .ok u → ∀ w : Written, w.WellFormed →
      absolutize (Url.joinTo address) w.text = (w.rewritten fun p => (Url.resolve? u p).map Url.text).text) ∧
    ∀ fault, Url.parse address = .error fault → ∀ css, absolutize (Url.joinTo address) css = css := by
  refine ⟨fun u hparse w hw => ?_, fun fault hparse css => ?_⟩
  · rw [joinTo_of_ok hparse, w.absolutize_text hw]
    rfl
  · rw [joinTo_of_error hparse, absolutize]
    exact mapUrls_eq_self fun _ _ => ite_self none

def sampleAddress : Text := "https://ex.com/css/app.css".toList

def sampleUrl : Url :=
  ⟨"https".toList, some ⟨[], [], some (.name "ex.com".toList), none⟩,
    .segments ["css".toList, "app.css".toList], none, none⟩

/-- Three tokens, one in each way to quote, with paths in which openings and other quotes stand. -/
def sampleSheet : Written where
  lead := "a\x7bb:".toList
  parts := [(⟨"URL(".toList, [' '], .double, "../1)'url(./x) y".toList, ['\n']⟩, " c:".toList),
    (⟨"url(".toList, [], .single, "./\"q".toList, []⟩, [';']),
    (⟨"uRl(".toList, [], .bare, "url(./x".toList, []⟩, ['\x7d'])]

/-- Each path that is relative is written again in its quotes, and nothing else is. -/
theorem absolutize_joinTo_sample :
    Url.parse sampleAddress = .ok sampleUrl ∧ sampleSheet.WellFormed ∧
      sampleSheet.text = "a\x7bb:URL( \"../1)'url(./x) y\"\n) c:url('./\"q');uRl(url(./x)\x7d".toList ∧
      absolutize (Url.joinTo sampleAddress) sampleSheet.text =
        ("a\x7bb:url(\"https://ex.com/1)'url(./x)%20y\") c:url('https://ex.com/css/%22q');uRl(url(./x)\x7d").toList ∧
      Url.parse "app.css".toList = .error .relative ∧
      absolutize (Url.joinTo "app.css".toList) sampleSheet.text = sampleSheet.text := by
  have hparse : Url.parse sampleAddress = .ok sampleUrl := rfl
  have hw : sampleSheet.WellFormed := by decide
  have herror : Url.parse "app.css".toList = .error .relative := rfl
  exact ⟨hparse, hw, rfl, ((absolutize_joinTo sampleAddress).1 sampleUrl hparse sampleSheet hw).trans rfl, herror,
    (absolutize_joinTo "app.css".toList).2 _ herror sampleSheet.text⟩

/-! ## Reading again -/

/-- A text reads as a stylesheet that is written so: it is the text of it, and its tokens are found. -/
def Written.IsReading (w : Written) (s : Text) : Prop := s = w.text ∧ urlTokens s = w.tokens

theorem fits_of_mem_urlTokens {s : Text} {v : UrlToken} (h : v ∈ urlTokens s) : v.quoting.Fits v.path := by
  fun_induction urlTokens s with
  | case1 => cases h
  | case2 c r t ht ih =>
    rcases List.mem_cons.1 h with rfl | h
    · exact urlToken?_fits ht
    · exact ih h
  | case3 c r _ ih => exact ih h

theorem Parts.map_tokens (ps : Parts) :
    ps.tokens.map (fun v => (v.quoting, v.path)) = ps.map fun q => (q.1.quoting, q.1.path) := by
  induction ps with
  | nil => rfl
  | cons q ps ih => rw [tokens, List.map_cons, ih]; rfl

theorem Spelling.IsToken.rewritten {s : Spelling} (h : s.IsToken)
    (hfits : (s.rewritten join).quoting.Fits (s.rewritten join).path) : (s.rewritten join).IsToken := by
  revert hfits
  rw [Spelling.rewritten]
  split
  · split
    · exact fun hfits => ⟨show Text.lowerAscii "url(".toList = _ by decide, by simp, hfits, by simp⟩
    · exact fun _ => h
  · exact fun _ => h

/-- **When the tokens are found again**: if the paths that were put in fit. -/
theorem Written.isReading_iff (hw : w.WellFormed) :
    (w.rewritten join).IsReading (absolutize join w.text) ↔ ∀ q ∈ w.parts, (q.1.rewritten join).IsToken := by
  rw [IsReading, w.absolutize_text hw]
  constructor
  · rintro ⟨-, htokens⟩ q hq
    have hmem : (q.1.rewritten join, q.2) ∈ (w.rewritten join).parts := List.mem_map_of_mem hq
    have hpair := List.mem_map_of_mem (f := fun r : Spelling × Text => (r.1.quoting, r.1.path)) hmem
    rw [← Parts.map_tokens, ← tokens, ← htokens] at hpair
    obtain ⟨v, hv, heq⟩ := List.mem_map.1 hpair
    obtain ⟨hquoting, hpath⟩ := Prod.mk.inj heq
    have hfits := fits_of_mem_urlTokens hv
    rw [hquoting, hpath] at hfits
    exact (hw.token q hq).rewritten hfits
  · intro h
    refine ⟨rfl, Written.urlTokens_text ⟨hw.lead, ?_, ?_⟩⟩
    · exact List.forall_mem_map.2 h
    · exact List.forall_mem_map.2 hw.tail

/-- A stylesheet whose tokens have no relative paths any more is left as it is. -/
theorem absolutize_of_isReading {s : Text} (h : w.IsReading s)
    (hpaths : ∀ q ∈ w.parts, isDotRelative q.1.path = false) : absolutize join s = s := by
  refine absolutize_eq_self fun v hv => ?_
  have hpair := List.mem_map_of_mem (f := fun v : UrlToken => (v.quoting, v.path)) hv
  rw [h.2, Written.tokens, Parts.map_tokens] at hpair
  obtain ⟨q, hq, heq⟩ := List.mem_map.1 hpair
  rw [← (Prod.mk.inj heq).2]
  exact hpaths q hq

/-! ## Paths that fit -/

theorem isHosted_of_isWeb (hparse : Url.parse address = .ok u) (hweb : Url.isWeb address = true) :
    (∃ a ss, u.IsHosted a ss) ∧ u.scheme.head? = some 'h' := by
  rw [Url.isWeb, hparse, Bool.or_eq_true, beq_iff_eq, beq_iff_eq] at hweb
  have hform : Url.formOf u.scheme = .web := by
    rcases hweb with h | h <;> rw [h] <;> decide
  exact ⟨Url.parse_web hparse hform, by rcases hweb with h | h <;> rw [h] <;> rfl⟩

theorem Spelling.isDotRelative_rewritten (h : u.IsHosted a ss) (hscheme : u.scheme.head? = some 'h') (s : Spelling) :
    isDotRelative (s.rewritten (joined u)).path = false := by
  rw [rewritten]
  split
  · obtain ⟨v, hv, hsame, hhosted, -⟩ := h.exists_resolve? s.path
    obtain ⟨r, hr⟩ := List.head?_eq_some_iff.1 (hsame ▸ hscheme)
    have hjoined : joined u s.path = some v.text := by rw [joined, hv]; rfl
    rw [hjoined, hhosted.text_eq, hr]
    rfl
  · next hpath => exact Bool.eq_false_iff.2 (mt isDotRelative_iff.1 hpath)

/-- Next to an address whose directory could be written without quotes, every path leads to one that fits. -/
theorem Spelling.IsToken.fits_joined {s : Spelling} (hs : s.IsToken) (h : u.IsHosted a ss)
    (hfront : Quoting.bare.Fits u.front) (hp : joined u s.path = some p) : s.quoting.Fits p := by
  obtain ⟨v, hv, rfl⟩ := Option.map_eq_some_iff.1 hp
  have hsigns : Quoting.bare.Fits ("/?#".toList ++ Url.escapeSigns) := by decide
  have hchar (c : Char) (hc : c ∈ v.text) : isBareChar c = true ∨ c ∈ s.path := by
    rcases h.mem_text_resolve? hv hc with hc | hc | hc
    · exact .inl (isBareChar_iff.2 (hfront c hc))
    · exact .inr hc
    · exact .inl (isBareChar_iff.2 (hsigns c hc))
  have hfits := hs.fits
  cases hquoting : s.quoting with
  | double =>
    rw [hquoting] at hfits
    exact fun hc => (hchar '"' hc).elim (by decide) hfits
  | single =>
    rw [hquoting] at hfits
    exact fun hc => (hchar '\'' hc).elim (by decide) hfits
  | bare =>
    rw [hquoting] at hfits
    exact fun c hc => (hchar c hc).elim isBareChar_iff.1 (hfits c)

theorem Spelling.IsToken.rewritten_of_front {s : Spelling} (hs : s.IsToken) (h : u.IsHosted a ss)
    (hfront : Quoting.bare.Fits u.front) : (s.rewritten (joined u)).IsToken := by
  refine hs.rewritten ?_
  rw [Spelling.rewritten]
  split
  · split
    · next p hp => exact hs.fits_joined h hfront hp
    · exact hs.fits
  · exact hs.fits

/-- The stylesheet of one token whose path leads to the directory. -/
def hereSheet : Written := ⟨[], [(⟨"url(".toList, [], .bare, "./".toList, []⟩, [])]⟩

theorem wellFormed_hereSheet : hereSheet.WellFormed := by decide

theorem bare_front_of_hereSheet (h : u.IsHosted a ss)
    (htoken : ∀ q ∈ hereSheet.parts, (q.1.rewritten (joined u)).IsToken) : Quoting.bare.Fits u.front := by
  have hjoined : joined u "./".toList = some (u.front ++ ['/']) := h.text_resolve?_here
  have hfits := (List.forall_mem_singleton.1 htoken).fits
  rw [Spelling.rewritten, if_pos (.inl (List.prefix_refl _)), hjoined] at hfits
  exact fun c hc => hfits c (List.mem_append_left _ hc)

/-- **Which stylesheets read as before.** Take an address of the web. All stylesheets read as the same tokens once
they are rewritten, with what relative paths lead to in place of these, exactly if the directory of the address could
be written without quotes: it has no quote and no closing parenthesis in it. Any one of them reads so exactly if each
path that is put in fits the quotes around it, and then it is left as it is when it is rewritten again. -/
theorem isReading_absolutize_iff (hparse : Url.parse address = .ok u) (hweb : Url.isWeb address = true) :
    ((∀ w : Written, w.WellFormed →
        (w.rewritten (joined u)).IsReading (absolutize (Url.joinTo address) w.text)) ↔ Quoting.bare.Fits u.front) ∧
      ∀ w : Written, w.WellFormed →
        ((w.rewritten (joined u)).IsReading (absolutize (Url.joinTo address) w.text) ↔
          ∀ q ∈ w.parts, (q.1.rewritten (joined u)).IsToken) ∧
        ((w.rewritten (joined u)).IsReading (absolutize (Url.joinTo address) w.text) →
          absolutize (Url.joinTo address) (absolutize (Url.joinTo address) w.text) =
            absolutize (Url.joinTo address) w.text) := by
  obtain ⟨⟨a, ss, hhosted⟩, hscheme⟩ := isHosted_of_isWeb hparse hweb
  rw [joinTo_of_ok hparse]
  refine ⟨⟨fun hall => ?_, fun hfront w hw => ?_⟩, fun w hw => ⟨Written.isReading_iff hw, fun hread => ?_⟩⟩
  · have hread := hall hereSheet wellFormed_hereSheet
    exact bare_front_of_hereSheet hhosted ((Written.isReading_iff wellFormed_hereSheet).1 hread)
  · exact (Written.isReading_iff hw).2 fun q hq => (hw.token q hq).rewritten_of_front hhosted hfront
  · refine absolutize_of_isReading hread (List.forall_mem_map.2 fun q _ => ?_)
    exact Spelling.isDotRelative_rewritten hhosted hscheme q.1

/-- From a directory that could be written without quotes the tokens are found again, whatever their paths are. -/
theorem isReading_absolutize_sample :
    Url.parse sampleAddress = .ok sampleUrl ∧ Url.isWeb sampleAddress = true ∧
      sampleUrl.front = "https://ex.com/css".toList ∧ sampleSheet.WellFormed ∧
      (sampleSheet.rewritten (joined sampleUrl)).IsReading
        (absolutize (Url.joinTo sampleAddress) sampleSheet.text) ∧
      absolutize (Url.joinTo sampleAddress) (absolutize (Url.joinTo sampleAddress) sampleSheet.text) =
        absolutize (Url.joinTo sampleAddress) sampleSheet.text := by
  have hparse : Url.parse sampleAddress = .ok sampleUrl := rfl
  have hweb : Url.isWeb sampleAddress = true := rfl
  have hfront : sampleUrl.front = "https://ex.com/css".toList := rfl
  have hw : sampleSheet.WellFormed := by decide
  obtain ⟨hall, hone⟩ := isReading_absolutize_iff hparse hweb
  have hread := hall.2 (hfront ▸ by decide) sampleSheet hw
  exact ⟨hparse, hweb, hfront, hw, hread, (hone sampleSheet hw).2 hread⟩

def quotedSheet : Written := ⟨[], [(⟨"url(".toList, [], .single, "./i.png".toList, []⟩, [])]⟩

def unquotedSheet : Written := ⟨[], [(⟨"url(".toList, [], .bare, "./i".toList, []⟩, [])]⟩

/-- What the parenthesis of a directory makes of it. -/
def cutSheet : Written :=
  { unquotedSheet with parts := (⟨"url(".toList, [], .bare, "https://ex.com/a".toList, []⟩, []) :: unquotedSheet.parts }

/-- **An address can end a token.** The apostrophe of the first directory closes the quotes, and no token is found any
more. The parenthesis of the second closes the token, what follows reads as another one with a relative path, and
rewriting again changes that. -/
theorem not_isReading_of_directory :
    Url.isWeb "https://ex.com/it's/a.css".toList = true ∧ quotedSheet.WellFormed ∧
      absolutize (Url.joinTo "https://ex.com/it's/a.css".toList) quotedSheet.text =
        "url('https://ex.com/it's/i.png')".toList ∧
      urlTokens "url('https://ex.com/it's/i.png')".toList = [] ∧ quotedSheet.tokens.length = 1 ∧
      Url.isWeb "https://ex.com/a)url(./b.css".toList = true ∧ unquotedSheet.WellFormed ∧
      absolutize (Url.joinTo "https://ex.com/a)url(./b.css".toList) unquotedSheet.text =
        "url(https://ex.com/a)url(./i)".toList ∧
      absolutize (Url.joinTo "https://ex.com/a)url(./b.css".toList) "url(https://ex.com/a)url(./i)".toList =
        "url(https://ex.com/a)url(https://ex.com/a)url(./i)".toList := by
  have hquoted : quotedSheet.WellFormed := by decide
  have hbare : unquotedSheet.WellFormed := by decide
  have htokens : urlTokens "url('https://ex.com/it's/i.png')".toList = [] := by
    show urlTokens ('u' :: "rl('https://ex.com/it's/i.png')".toList) = []
    have hnone : urlToken? ('u' :: "rl('https://ex.com/it's/i.png')".toList) = none := rfl
    rw [urlTokens_cons, hnone]
    exact urlTokens_eq_nil rfl
  have hcut : cutSheet.WellFormed := by decide
  exact ⟨rfl, hquoted, (Written.absolutize_text hquoted _).trans rfl, htokens, rfl, rfl, hbare,
    (Written.absolutize_text hbare _).trans rfl, (Written.absolutize_text hcut _).trans rfl⟩

end StylePrune.Sheet
