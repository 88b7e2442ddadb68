import StylePrune.Css.Reduce.Family

/-!
The background of a block.

The shorthand is taken apart into its longhands, and written again where all longhands are held and speak
of as many layers.
-/
namespace StylePrune.Css.Family

open Background

/-- A declaration of another property of backgrounds. -/
def layered (d : Declaration) (name : String) (v : Background.Value) : Declaration :=
  { d with name := { d.name with base := name.toList }, content := .background v }

/-- A declaration as declarations of its longhands. -/
def layerParts (d : Declaration) : List Declaration :=
  match d.content with
  | .background (.layers ls) =>
    [named d "background-color" [.color ((ls.getLast?.map (·.color)).getD Layer.clear)],
     layered d "background-image" (.images (ls.map (·.image))),
     layered d "background-position-x" (.offsets .across (ls.map (·.place.x))),
     layered d "background-position-y" (.offsets .down (ls.map (·.place.y))),
     layered d "background-repeat" (.repetitions (ls.map (·.repetition))),
     layered d "background-size" (.sizes (ls.map (·.size))),
     layered d "background-attachment" (.boxes (ls.map (·.attachment))),
     layered d "background-origin" (.boxes (ls.map (·.origin))),
     layered d "background-clip" (.boxes (ls.map (·.clip)))]
  | .background (.spots ps) =>
    [layered d "background-position-x" (.offsets .across (ps.map (·.x))),
     layered d "background-position-y" (.offsets .down (ps.map (·.y)))]
  | _ => [d]

/-- A declaration for the boxes that layers are painted in stands in the way of a new one. -/
def clipConflicts (d e : Declaration) : Bool :=
  d.name.base = "background-clip".toList && e.name.base = d.name.base && d.vendors != e.vendors
    && !d.sameValue e

/-- The value of a longhand that is held. -/
def layerValue? (held : List Declaration) (name : String) : Option Background.Value :=
  (held? held name).bind fun d => match d.content with
    | .background v => some v
    | _ => none

/-- The colour that is held. -/
def layerColor? (held : List Declaration) : Option Color :=
  (held? held "background-color").bind fun d => match d.content with
    | .terms [.color c] => some c
    | _ => none

/-- The layers that the longhands come to, where all are held and speak of as many layers. -/
def layers? (held : List Declaration) : Option (List Layer) := do
  let color ← layerColor? held
  match ← layerValue? held "background-image", ← layerValue? held "background-position-x",
      ← layerValue? held "background-position-y", ← layerValue? held "background-repeat",
      ← layerValue? held "background-size", ← layerValue? held "background-attachment",
      ← layerValue? held "background-origin", ← layerValue? held "background-clip" with
  | .images is, .offsets _ xs, .offsets _ ys, .repetitions rs, .sizes ss, .boxes as, .boxes os, .boxes cs =>
    let n := is.length
    if [xs.length, ys.length, rs.length, ss.length, as.length, os.length, cs.length].all (· = n) then
      (List.range n).mapM fun i => do
        some ⟨if i + 1 = n then color else Layer.clear, ← is[i]?, ⟨← xs[i]?, ← ys[i]?⟩, ← ss[i]?, ← rs[i]?,
          ← as[i]?, ← os[i]?, ← cs[i]?⟩
    else none
  | _, _, _, _, _, _, _, _ => none

/-- The boxes that layers are painted in, under the marks that browsers need where the text is one. -/
def markedClip (t : Targets) (d : Declaration) : Declaration :=
  match d.content with
  | .background (.boxes ws) => if ws.contains "text".toList then marked t d else d
  | _ => d

/-- The longhands of a background as they are written. -/
def settleLonghands (t : Targets) (held : List Declaration) : List Declaration :=
  let get (n : String) : List Declaration := (held? held n).toList
  let spots : List Declaration := match layerValue? held "background-position-x",
      layerValue? held "background-position-y" with
    | some (.offsets _ xs), some (.offsets _ ys) =>
      if xs.length = ys.length then
        (get "background-position-x").map fun d =>
          layered d "background-position" (.spots (List.zipWith Spot.mk xs ys))
      else get "background-position-x" ++ get "background-position-y"
    | _, _ => get "background-position-x" ++ get "background-position-y"
  get "background-color" ++ get "background-image" ++ spots ++ get "background-repeat" ++ get "background-size"
    ++ get "background-attachment" ++ get "background-origin" ++ (get "background-clip").map (markedClip t)

/-- The background of a block as it is written. Boxes under marks stay out of the shorthand. -/
def settleLayers (t : Targets) (held : List Declaration) : List Declaration :=
  match layers? held, held? held "background-image", held? held "background-clip" with
  | some ls, some d, some clip =>
    let clip := markedClip t clip
    if clip.vendors == .plain then [layered d "background" (.layers ls)]
    else [layered d "background" (.layers (ls.map ({ · with clip := "border-box".toList }))), clip]
  | _, _, _ => settleLonghands t held

end StylePrune.Css.Family
