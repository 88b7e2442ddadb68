import StylePrune.Pass
import StylePrune.Proofs.FlexBasis.Settled

/-!
Flex bases in stylesheets that have been minified.

Minifying ends with a rewriting, so what comes out is settled, and so is what comes out of the passes of a run
(`settled_minified`). A declaration behind a nested rule is written close behind the closing brace of that rule
(`Css.Rule.listText_nested`), where none is looked for: it keeps the value that the printer gave it
(`minified_lacksBasis`).
-/
namespace StylePrune

/-! ## The last pass -/

theorem Pass.runAll_concat (ps : List Pass) (p : Pass) (css markup : Text) :
    runAll (ps ++ [p]) css markup = (runAll ps css markup).bind fun css' => Pass.run markup css' p := by
  rw [runAll, List.foldlM_append]
  show (runAll ps css markup).bind (fun css' => (Pass.run markup css' p).bind Except.ok) = _
  congr
  funext css'
  cases Pass.run markup css' p <;> rfl

/-- What minifying gives was printed and rewritten. -/
theorem Pass.exists_of_minifying {c : Config} {css markup out : Text}
    (h : (Pass.minifying c).apply css markup = .ok out) :
    ∃ printed, Css.Stylesheet.compile c.browsers.full c.recovers true css = .ok printed ∧
      out = FlexBasis.rewrite .compact printed := by
  change FlexBasis.rewrite .compact <$> Css.Stylesheet.compile c.browsers.full c.recovers true css = _ at h
  cases hcompile : Css.Stylesheet.compile c.browsers.full c.recovers true css with
  | error cause =>
    rw [hcompile] at h
    cases h
  | ok printed =>
    rw [hcompile] at h
    exact ⟨printed, rfl, (Except.ok.inj h).symm⟩

theorem Pass.exists_of_standard {c : Config} {css markup out : Text}
    (h : Pass.runAll (Pass.standard c) css markup = .ok out) :
    ∃ sheet, Pass.runAll (Pass.standard c).dropLast css markup = .ok sheet ∧
      (Pass.minifying c).apply sheet markup = .ok out := by
  have hlast : Pass.standard c = (Pass.standard c).dropLast ++ [minifying c] := rfl
  rw [hlast, Pass.runAll_concat] at h
  cases hpasses : Pass.runAll (Pass.standard c).dropLast css markup with
  | error f =>
    rw [hpasses] at h
    cases h
  | ok sheet =>
    rw [hpasses] at h
    cases happly : (Pass.minifying c).apply sheet markup with
    | error cause =>
      simp only [Except.bind, Pass.run, happly, Except.mapError] at h
      cases h
    | ok out' =>
      simp only [Except.bind, Pass.run, happly, Except.mapError, Except.ok.injEq] at h
      exact ⟨sheet, rfl, h ▸ happly⟩

namespace FlexBasis

/-- What minifying a stylesheet gives is settled from what the printer wrote for it. -/
theorem settles_of_minifying {c : Config} {css markup out : Text} (h : (Pass.minifying c).apply css markup = .ok out) :
    ∃ printed, Css.Stylesheet.compile c.browsers.full c.recovers true css = .ok printed ∧ Settles printed out := by
  obtain ⟨printed, hcompile, rfl⟩ := Pass.exists_of_minifying h
  exact ⟨printed, hcompile, settles_rewrite .compact printed⟩

/-- **Rewriting settles every text**, and so what minifying gives, alone or as the last pass of a run, is settled from
what the printer wrote: neither spacing changes it again, and a declaration lacks its basis in it if and only if the
printer wrote one that does close behind a closing brace. Alone, minifying prints the stylesheet itself, and in a run it
prints what the passes before it made of the stylesheet. -/
theorem settled_minified (css : Text) :
    (∀ spacing, Settles css (rewrite spacing css)) ∧
      (∀ (c : Config) (markup out : Text), (Pass.minifying c).apply css markup = .ok out →
        ∃ printed, Css.Stylesheet.compile c.browsers.full c.recovers true css = .ok printed ∧ Settles printed out) ∧
      ∀ (c : Config) (markup out : Text), Pass.runAll (Pass.standard c) css markup = .ok out →
        ∃ sheet printed, Pass.runAll (Pass.standard c).dropLast css markup = .ok sheet ∧
          Css.Stylesheet.compile c.browsers.full c.recovers true sheet = .ok printed ∧ Settles printed out := by
  refine ⟨fun spacing => settles_rewrite spacing css, fun c markup out h => settles_of_minifying h,
    fun c markup out h => ?_⟩
  obtain ⟨sheet, hpasses, hminify⟩ := Pass.exists_of_standard h
  obtain ⟨printed, hcompile, hsettles⟩ := settles_of_minifying hminify
  exact ⟨sheet, printed, hpasses, hcompile, hsettles⟩

end FlexBasis

/-! ## An empty stylesheet -/

namespace Css.Stylesheet

variable {recovers : Bool} {css : Text}

theorem parse_nil : parse recovers [] = .ok ⟨[], []⟩ := by
  have htokens : lexemes [] = [] := by decide +kernel
  rw [parse, Stream.ofText, htokens]
  simp [Component.build, parseRules, noticesOf]

theorem parse_newline : parse recovers ['\n'] = .ok ⟨[], []⟩ := by
  have htokens : lexemes ['\n'] = [⟨.blank ['\n'], ⟨0, 1⟩, ['\n']⟩] := by decide +kernel
  rw [parse, Stream.ofText, htokens]
  simp [Component.build, parseRules]
  rfl

theorem compile_of_empty {t : Targets} {compact : Bool} {out : Text} (h : parse recovers css = .ok ⟨[], []⟩)
    (hout : (if compact then [] else ['\n']) = out) : compile t recovers compact css = .ok out := by
  have hreduce : reduce t ⟨[], []⟩ = ⟨[], []⟩ := rfl
  rw [← hout, compile, h]
  simp [hreduce, print, Rule.listText, Page.line]

theorem prune_of_empty {t : Targets} {u : Usage} (h : parse recovers css = .ok ⟨[], []⟩) :
    prune t recovers u css = .ok ['\n'] := by
  rw [prune, h]
  simp [print, Rule.listText, Page.line, Rule.prune]

end Css.Stylesheet

theorem FlexBasis.rewrite_nil (spacing : Spacing) : rewrite spacing [] = [] := by
  have hnone : decl? [] = none := rfl
  rw [rewrite, hnone]
  exact rewriteFrom_nil spacing

namespace Pass

theorem run_of_ok {p : Pass} {css markup out : Text} (h : p.apply css markup = .ok out) :
    run markup css p = .ok out := by
  rw [run, h]
  rfl

/-- A run makes nothing of nothing; in between, a stylesheet that is not compact ends with a line end. -/
theorem runAll_standard_nil (c : Config) (markup : Text) : runAll (standard c) [] markup = .ok [] := by
  have hcompatible : run markup [] compatibility = .ok [] := by
    have hrewritten : compatibility.apply [] markup = .ok (FlexBasis.rewrite .loose []) := rfl
    rw [FlexBasis.rewrite_nil] at hrewritten
    exact run_of_ok hrewritten
  have hlowered : run markup [] (lowering c) = .ok ['\n'] :=
    run_of_ok (Css.Stylesheet.compile_of_empty Css.Stylesheet.parse_nil rfl)
  have hprefixed : run markup ['\n'] (prefixing c) = .ok ['\n'] :=
    run_of_ok (Css.Stylesheet.compile_of_empty Css.Stylesheet.parse_newline rfl)
  have hpurged : run markup ['\n'] (purging c) = .ok ['\n'] :=
    run_of_ok (Css.Stylesheet.prune_of_empty Css.Stylesheet.parse_newline)
  have hminified : run markup ['\n'] (minifying c) = .ok [] := by
    apply run_of_ok
    show FlexBasis.rewrite .compact <$> Css.Stylesheet.compile _ _ _ _ = _
    rw [Css.Stylesheet.compile_of_empty Css.Stylesheet.parse_newline rfl]
    exact congrArg Except.ok (FlexBasis.rewrite_nil .compact)
  calc runAll (standard c) [] markup
      = [lowering c, prefixing c, purging c, minifying c].foldlM (run markup) [] := by
        rw [runAll, standard, List.foldlM_cons, hcompatible]
        rfl
    _ = [prefixing c, purging c, minifying c].foldlM (run markup) ['\n'] := by
        rw [List.foldlM_cons, hlowered]
        rfl
    _ = [purging c, minifying c].foldlM (run markup) ['\n'] := by
        rw [List.foldlM_cons, hprefixed]
        rfl
    _ = [minifying c].foldlM (run markup) ['\n'] := by
        rw [List.foldlM_cons, hpurged]
        rfl
    _ = .ok [] := by
        rw [List.foldlM_cons, hminified]
        rfl

end Pass

/-! ## Declarations behind a nested rule -/

namespace Css

variable {p : Page} {head inner : StyleHead}

theorem Page.line_compact (hcompact : p.layout.compact = true) : p.line = [] := by rw [Page.line, hcompact, if_pos rfl]

theorem Page.blank_compact (hcompact : p.layout.compact = true) : p.blank = [] := by
  rw [Page.blank, hcompact, if_pos rfl]

theorem Rule.text_style_compact (hcompact : p.layout.compact = true) (hnested : p.unfolds = false)
    (hvendors : head.vendors.toList = []) (rules : List Rule) :
    Rule.text p (.style head rules) = p.selectors head.selectors ++
      '{' :: (p.inner.declarations (!rules.isEmpty) (head.body.texts p.layout) ++
        Rule.listText p.inner true false rules ++ ['}']) := by
  rw [Rule.text, hvendors, List.isEmpty_nil, if_pos rfl, Rule.styleText, hnested, Bool.not_false, Bool.or_true,
    if_pos rfl, Page.block, Layout.gap, hcompact, Page.line_compact hcompact]
  have hline : p.inner.line = [] := Page.line_compact hcompact
  have hblank : p.inner.blank = [] := Page.blank_compact hcompact
  cases rules with
  | nil => simp [Rule.listText]
  | cons r rules => simp [hline, hblank]

theorem Rule.text_declarations_compact (hcompact : p.layout.compact = true) (hparents : p.parents = [])
    (body : Declarations) : Rule.text p (.plain (.declarations body)) = Text.join [';'] (body.texts p.layout) := by
  have htext : PlainRule.text p (.declarations body) = PlainRule.bareDeclarations p body := rfl
  rw [Rule.text, htext, PlainRule.bareDeclarations, PlainRule.wrapped, hparents]
  simp only [Page.line_compact hcompact, hcompact, if_true, List.append_nil]

/-- The compact text of a style rule with a style rule and declarations behind it inside: the declarations stand close
behind the closing brace. -/
def nestedText (p : Page) (head inner : StyleHead) (body : Declarations) : Text :=
  p.selectors head.selectors ++ '{' :: (p.inner.declarations true (head.body.texts p.layout) ++
    (p.inner.selectors inner.selectors ++ '{' :: (p.inner.inner.declarations false (inner.body.texts p.layout) ++
      '}' :: (Text.join [';'] (body.texts p.layout) ++ ['}']))))

/-- Where browsers know nested rules, declarations stay behind the nested rule that they follow. -/
theorem Rule.listText_nested (hcompact : p.layout.compact = true) (hnested : p.unfolds = false)
    (hparents : p.parents = []) (hhead : head.vendors.toList = []) (hinner : inner.vendors.toList = [])
    (body : Declarations) :
    Rule.listText p true false [.style head [.style inner [], .plain (.declarations body)]] =
      nestedText p head inner body := by
  have hcompact' : p.inner.layout.compact = true := hcompact
  have hlist : Rule.listText p.inner true false [.style inner [], .plain (.declarations body)] =
      Rule.text p.inner (.style inner []) ++ Rule.text p.inner (.plain (.declarations body)) := by
    simp [Rule.listText, Rule.isOpen, Page.line_compact hcompact', Page.blank_compact hcompact']
  have hleaf : Rule.listText p.inner.inner true false [] = [] := by rw [Rule.listText]
  have hwhole (r : Rule) : Rule.listText p true false [r] = Rule.text p r := by simp [Rule.listText]
  rw [hwhole, Rule.text_style_compact hcompact hnested hhead, hlist, Rule.text_style_compact hcompact' hnested hinner,
    Rule.text_declarations_compact hcompact' hparents, hleaf]
  simp [nestedText, Page.inner]

def nested? : List Rule → Option (StyleHead × StyleHead × Declarations)
  | [.style head [.style inner [], .plain (.declarations body)]] => some (head, inner, body)
  | _ => none

theorem eq_of_nested? {rules : List Rule} {body : Declarations} (h : nested? rules = some (head, inner, body)) :
    rules = [.style head [.style inner [], .plain (.declarations body)]] := by
  unfold nested? at h
  split at h
  · cases h
    rfl
  · cases h

def nestedSheet : Text := ".a\x7b.b\x7bcolor:red\x7dflex:1\x7d".toList

theorem ofText_nestedSheet : Stream.ofText nestedSheet =
    ⟨[.leaf (.delim '.') ⟨0, 1⟩ ['.'], .leaf (.ident ['a']) ⟨0, 2⟩ ['a'],
      .block (.opening .curly) ⟨0, 3⟩ ['{']
        [.leaf (.delim '.') ⟨0, 4⟩ ['.'], .leaf (.ident ['b']) ⟨0, 5⟩ ['b'],
          .block (.opening .curly) ⟨0, 6⟩ ['{']
            [.leaf (.ident "color".toList) ⟨0, 7⟩ "color".toList, .leaf .colon ⟨0, 12⟩ [':'],
              .leaf (.ident "red".toList) ⟨0, 13⟩ "red".toList] ⟨0, 16⟩ ['}'],
          .leaf (.ident "flex".toList) ⟨0, 17⟩ "flex".toList, .leaf .colon ⟨0, 21⟩ [':'],
          .leaf (.number ⟨1, false, false, some 1⟩) ⟨0, 22⟩ ['1']] ⟨0, 23⟩ ['}']], ⟨0, 24⟩⟩ := by
  have htokens : lexemes nestedSheet =
      [⟨.delim '.', ⟨0, 1⟩, ['.']⟩, ⟨.ident ['a'], ⟨0, 2⟩, ['a']⟩, ⟨.opening .curly, ⟨0, 3⟩, ['{']⟩,
        ⟨.delim '.', ⟨0, 4⟩, ['.']⟩, ⟨.ident ['b'], ⟨0, 5⟩, ['b']⟩, ⟨.opening .curly, ⟨0, 6⟩, ['{']⟩,
        ⟨.ident "color".toList, ⟨0, 7⟩, "color".toList⟩, ⟨.colon, ⟨0, 12⟩, [':']⟩,
        ⟨.ident "red".toList, ⟨0, 13⟩, "red".toList⟩, ⟨.closing .curly, ⟨0, 16⟩, ['}']⟩,
        ⟨.ident "flex".toList, ⟨0, 17⟩, "flex".toList⟩, ⟨.colon, ⟨0, 21⟩, [':']⟩,
        ⟨.number ⟨1, false, false, some 1⟩, ⟨0, 22⟩, ['1']⟩, ⟨.closing .curly, ⟨0, 23⟩, ['}']⟩] := by
    decide +kernel
  have hfinish : Place.start.behind nestedSheet = ⟨0, 24⟩ := by decide +kernel
  rw [Stream.ofText, htokens, hfinish]
  simp [Component.build, Token.opens, Component.Open.close]

def chromeOnly : Config.SupportedBrowsers := ⟨some 120, none, none, none, none, none, none, none, none⟩

/-- The page at its beginning, written compactly for that browser. -/
def chromePage : Page := ⟨⟨true, some chromeOnly.full⟩, 0, none, []⟩

theorem compile_nestedSheet :
    Stylesheet.compile chromeOnly.full true true nestedSheet = .ok ".a\x7b& .b\x7bcolor:red\x7dflex:1\x7d".toList := by
  have hrun : (Stylesheet.parse true nestedSheet).toOption.bind (fun s =>
      (nested? (s.reduce chromeOnly.full).rules).map fun (head, inner, body) =>
        ((s.reduce chromeOnly.full).notices, head.vendors.toList, inner.vendors.toList,
          nestedText chromePage head inner body)) =
      some ([], [], [], ".a\x7b& .b\x7bcolor:red\x7dflex:1\x7d".toList) := by
    rw [Stylesheet.parse, ofText_nestedSheet]
    decide +kernel
  cases hparse : Stylesheet.parse true nestedSheet with
  | error f =>
    rw [hparse] at hrun
    cases hrun
  | ok s =>
    rw [hparse] at hrun
    obtain ⟨⟨head, inner, body⟩, hrules, hparts⟩ := Option.map_eq_some_iff.1 hrun
    simp only [Prod.mk.injEq] at hparts
    obtain ⟨hnotices, hhead, hinner, htext⟩ := hparts
    have hlist := Rule.listText_nested (p := chromePage) rfl (by decide +kernel) rfl hhead hinner body
    have hline : chromePage.line = [] := rfl
    rw [Stylesheet.compile, hparse]
    show Except.ok ((List.map _ (s.reduce chromeOnly.full).notices).flatten ++
      Rule.listText chromePage true false (s.reduce chromeOnly.full).rules ++ chromePage.line) = _
    rw [hnotices, eq_of_nested? hrules, hlist, hline, ← htext, List.map_nil, List.flatten_nil, List.nil_append,
      List.append_nil]

end Css

namespace FlexBasis

def chromeConfig : Config := { Config.usual with browsers := Css.chromeOnly }

def nestedPrinted : Text := ".a\x7b& .b\x7bcolor:red\x7dflex:1\x7d".toList

theorem minifying_nestedSheet : (Pass.minifying chromeConfig).apply Css.nestedSheet [] = .ok nestedPrinted := by
  have hsame : rewrite .compact nestedPrinted = nestedPrinted := by decide +kernel
  show rewrite .compact <$> Css.Stylesheet.compile Css.chromeOnly.full true true Css.nestedSheet = _
  rw [Css.compile_nestedSheet]
  exact congrArg Except.ok hsame

theorem settled_minified_nestedSheet :
    ((Pass.minifying chromeConfig).apply Css.nestedSheet [] = .ok nestedPrinted ∧
      ∃ printed, Css.Stylesheet.compile Css.chromeOnly.full true true Css.nestedSheet = .ok printed ∧
        Settles printed nestedPrinted) ∧
    Pass.runAll (Pass.standard chromeConfig) [] [] = .ok [] ∧
      ∃ sheet printed, Pass.runAll (Pass.standard chromeConfig).dropLast [] [] = .ok sheet ∧
        Css.Stylesheet.compile Css.chromeOnly.full true true sheet = .ok printed ∧ Settles printed [] :=
  ⟨⟨minifying_nestedSheet, (settled_minified Css.nestedSheet).2.1 chromeConfig [] nestedPrinted minifying_nestedSheet⟩,
    Pass.runAll_standard_nil chromeConfig [],
    (settled_minified []).2.2 chromeConfig [] [] (Pass.runAll_standard_nil chromeConfig [])⟩

/-- **A declaration can be left without its basis**: one behind a nested rule. -/
theorem minified_lacksBasis :
    ∃ out before d, (Pass.minifying chromeConfig).apply Css.nestedSheet [] = .ok out ∧
      Decl.StandsIn d before out ∧ LacksBasis d.value := by
  let d : Decl := ⟨"flex".toList, [':'], ['1'], ['}']⟩
  have hfound : decl? "flex:1\x7d".toList = some d := rfl
  have hlast : ∀ c ∈ ".a\x7b& .b\x7bcolor:red\x7d".toList.getLast?, endsValue c = true := by
    intro c hc
    obtain rfl : '}' = c := Option.some.inj hc
    rfl
  refine ⟨nestedPrinted, ".a\x7b& .b\x7bcolor:red\x7d".toList, d, minifying_nestedSheet,
    ⟨(decl?_eq_some_iff.1 hfound).1, rfl, ⟨_, [], (List.append_nil _).symm, hlast, by simp⟩, by decide⟩, ?_⟩
  have hwords : Text.words (partPriority d.value).1 = [['1']] := by decide
  rw [LacksBasis, hwords]
  exact .grow (by decide)

end FlexBasis
end StylePrune
