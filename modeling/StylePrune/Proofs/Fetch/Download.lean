import StylePrune.Fetch.Download
import StylePrune.Proofs.Text.Utf8

/-!
Which replies bring a text.

The pieces of a body are kept one after another. What was kept of the first of them is all of them, within the
limit, and reading goes on from there (`collect_append`, `collect_eq_ok_iff`); a body that is too large is refused at
the piece that passes the limit (`exists_collect_eq_error`). So a reply is looked at piece by piece, but what comes of
it depends on the body as a whole (`Response.text_cut`), and it is a text exactly if status, declared length and body
allow it (`Response.text_eq_ok_iff`). `Response.text_delivers` puts these together.
-/
namespace StylePrune

/-- The character that may mark the start of a text. -/
def byteOrderMark : Char := '\uFEFF'

theorem head?_ne_or_eq_mark (s : Text) : s.head? ≠ some byteOrderMark ∨ ∃ t, s = byteOrderMark :: t := by
  by_cases h : s.head? = some byteOrderMark
  · exact .inr (List.head?_eq_some_iff.1 h)
  · exact .inl h

namespace Fetch

/-! ## Byte order marks -/

@[simp] theorem dropMark_mark (t : Text) : dropMark (byteOrderMark :: t) = t := rfl

theorem dropMark_of_head {s : Text} (h : s.head? ≠ some byteOrderMark) : dropMark s = s := by
  rw [dropMark.eq_def]
  split
  · exact absurd rfl h
  · rfl

/-- The second text is the first one without the mark that may start it. -/
def Unmarked (s t : Text) : Prop := s = byteOrderMark :: t ∨ s = t ∧ s.head? ≠ some byteOrderMark

theorem dropMark_eq_iff {s t : Text} : dropMark s = t ↔ Unmarked s t := by
  constructor
  · rintro rfl
    rcases head?_ne_or_eq_mark s with h | ⟨t, rfl⟩
    · exact .inr ⟨(dropMark_of_head h).symm, h⟩
    · exact .inl rfl
  · rintro (rfl | ⟨rfl, h⟩)
    · rfl
    · exact dropMark_of_head h

/-! ## Pieces -/

variable {limit : Nat} {kept bytes : List UInt8} {chunks : List (List UInt8)}

/-- Behind some pieces, reading goes on from what was kept of them. -/
theorem collect_append (kept : List UInt8) (front back : List (List UInt8)) :
    collect limit kept (front ++ back) = collect limit kept front >>= fun k => collect limit k back := by
  induction front generalizing kept with
  | nil => rfl
  | cons chunk front ih =>
    rw [List.cons_append, collect, collect]
    by_cases h : limit < kept.length + chunk.length
    · rw [if_pos h, if_pos h]
      rfl
    · rw [if_neg h, if_neg h, ih]

theorem collect_eq_ok (h : kept.length + chunks.flatten.length ≤ limit) :
    collect limit kept chunks = .ok (kept ++ chunks.flatten) := by
  induction chunks generalizing kept with
  | nil => rw [collect, List.flatten_nil, List.append_nil]
  | cons chunk chunks ih =>
    rw [List.flatten_cons, List.length_append] at h
    have hroom : ¬ limit < kept.length + chunk.length := by omega
    have hrest : (kept ++ chunk).length + chunks.flatten.length ≤ limit := by
      rw [List.length_append]
      omega
    rw [collect, if_neg hroom, ih hrest, List.flatten_cons, List.append_assoc]

/-- Where the pieces of a body get larger than the limit, reading ends at the piece that does so. -/
theorem exists_collect_eq_error (hkept : kept.length ≤ limit) (h : limit < kept.length + chunks.flatten.length) :
    ∃ size, limit < size ∧ collect limit kept chunks = .error (.overLimit size limit) := by
  induction chunks generalizing kept with
  | nil =>
    rw [List.flatten_nil, List.length_nil] at h
    omega
  | cons chunk chunks ih =>
    rw [collect]
    by_cases hroom : limit < kept.length + chunk.length
    · exact ⟨_, hroom, if_pos hroom⟩
    · rw [if_neg hroom]
      rw [List.flatten_cons, List.length_append] at h
      exact ih (by rw [List.length_append]; omega) (by rw [List.length_append]; omega)

/-- What is kept is everything that arrived, and never more than the limit allows. -/
theorem collect_eq_ok_iff (hkept : kept.length ≤ limit) :
    collect limit kept chunks = .ok bytes ↔ bytes = kept ++ chunks.flatten ∧ bytes.length ≤ limit := by
  by_cases h : kept.length + chunks.flatten.length ≤ limit
  · rw [collect_eq_ok h, Except.ok.injEq]
    constructor
    · rintro rfl
      exact ⟨rfl, by rwa [List.length_append]⟩
    · exact fun hbytes => hbytes.1.symm
  · obtain ⟨size, -, herror⟩ := exists_collect_eq_error hkept (Nat.lt_of_not_le h)
    rw [herror]
    refine iff_of_false (fun hok => by cases hok) ?_
    rintro ⟨rfl, hlength⟩
    rw [List.length_append] at hlength
    exact h hlength

/-! ## Replies -/

namespace Response

variable {r : Response}

def body (r : Response) : List UInt8 := r.chunks.flatten

/-- Neither the status nor the declared length speaks against a text. -/
structure Admitted (limit : Nat) (r : Response) : Prop where
  status : 200 ≤ r.status ∧ r.status ≤ 299
  declared : ∀ n ∈ r.declared, n ≤ limit

theorem text_of_not_admitted (h : ¬ r.Admitted limit) :
    ∃ fault, ∀ chunks, ({ r with chunks } : Response).text limit = .error fault := by
  by_cases hstatus : isSuccess r.status = true
  · have hdeclared : limit < r.declared.getD 0 := by
      by_contra hle
      refine h ⟨?_, fun n hn => ?_⟩
      · rw [isSuccess, Bool.and_eq_true, decide_eq_true_eq, decide_eq_true_eq] at hstatus
        omega
      · rw [Option.mem_def.1 hn] at hle
        exact Nat.le_of_not_lt hle
    refine ⟨.tooLarge (r.declared.getD 0) limit, fun chunks => ?_⟩
    simp only [text, hstatus, Bool.not_true, Bool.false_eq_true, if_false, if_pos hdeclared]
  · rw [Bool.not_eq_true] at hstatus
    refine ⟨.badStatus r.status, fun chunks => ?_⟩
    simp only [text, hstatus, Bool.not_false, if_true]

theorem Admitted.text_eq (h : r.Admitted limit) :
    r.text limit = collect limit [] r.chunks >>= fun bytes =>
      if r.isBroken then .error .broken
      else match Text.ofBytes? bytes with
        | some s => .ok (dropMark s)
        | none => .error .notUtf8 := by
  have hstatus : isSuccess r.status = true := by
    have := h.status
    rw [isSuccess, Bool.and_eq_true, decide_eq_true_eq, decide_eq_true_eq]
    omega
  have hdeclared : ¬ limit < r.declared.getD 0 := by
    cases hd : r.declared with
    | none => exact Nat.not_lt_zero limit
    | some n => exact Nat.not_lt.2 (h.declared n hd)
  simp only [text, hstatus, Bool.not_true, Bool.false_eq_true, if_false, if_neg hdeclared]
  cases collect limit [] r.chunks <;> rfl

theorem Admitted.text_of_size (h : r.Admitted limit) (hsize : r.body.length ≤ limit) :
    r.text limit =
      if r.isBroken then .error .broken
      else match Text.ofBytes? r.body with
        | some s => .ok (dropMark s)
        | none => .error .notUtf8 := by
  have hcollect : collect limit [] r.chunks = .ok r.body :=
    (collect_eq_ok_iff (Nat.zero_le limit)).2 ⟨rfl, hsize⟩
  rw [h.text_eq, hcollect]
  rfl

theorem Admitted.exists_text_eq_error (h : r.Admitted limit) (hsize : limit < r.body.length) :
    ∃ size, r.text limit = .error (.overLimit size limit) := by
  have hnone : ([] : List UInt8).length ≤ limit := Nat.zero_le limit
  obtain ⟨size, -, herror⟩ := exists_collect_eq_error hnone (by rwa [List.length_nil, Nat.zero_add, ← body])
  exact ⟨size, by rw [h.text_eq, herror]; rfl⟩

/-- The cut of a body into pieces makes no difference, other than for the size that is named when the limit is
passed. -/
theorem text_cut (hchunks : chunks.flatten = r.body) :
    ({ r with chunks } : Response).text limit = r.text limit ∨
      ∃ m n, ({ r with chunks } : Response).text limit = .error (.overLimit m limit) ∧
        r.text limit = .error (.overLimit n limit) := by
  have hbody : ({ r with chunks } : Response).body = r.body := hchunks
  by_cases h : r.Admitted limit
  · have hcut : ({ r with chunks } : Response).Admitted limit := ⟨h.status, h.declared⟩
    by_cases hsize : r.body.length ≤ limit
    · left
      rw [h.text_of_size hsize, hcut.text_of_size (by rwa [hbody]), hbody]
    · right
      obtain ⟨n, hn⟩ := h.exists_text_eq_error (Nat.lt_of_not_le hsize)
      obtain ⟨m, hm⟩ := hcut.exists_text_eq_error (by rw [hbody]; exact Nat.lt_of_not_le hsize)
      exact ⟨m, n, hm, hn⟩
  · obtain ⟨fault, hfault⟩ := text_of_not_admitted h
    exact .inl ((hfault chunks).trans (hfault r.chunks).symm)

/-- A reply brings a text: it succeeds, neither its declared length nor its body is larger than the limit, its body
arrives whole, and the bytes are those of the text, perhaps with a byte order mark in front of it. -/
structure Delivers (limit : Nat) (r : Response) (t : Text) : Prop extends r.Admitted limit where
  size : r.body.length ≤ limit
  unbroken : r.isBroken = false
  text : ∃ s, Text.toBytes s = r.body ∧ Unmarked s t

/-- **When a reply is a text**, and which one. -/
theorem text_eq_ok_iff {t : Text} : r.text limit = .ok t ↔ r.Delivers limit t := by
  constructor
  · intro htext
    by_cases h : r.Admitted limit
    · by_cases hsize : r.body.length ≤ limit
      · rw [h.text_of_size hsize] at htext
        split at htext
        · cases htext
        · next hbroken =>
          split at htext
          · next s hs =>
            exact ⟨h, hsize, Bool.eq_false_iff.2 hbroken, s, Text.ofBytes?_eq_some_iff.1 hs,
              dropMark_eq_iff.1 (Except.ok.inj htext)⟩
          · cases htext
      · obtain ⟨size, herror⟩ := h.exists_text_eq_error (Nat.lt_of_not_le hsize)
        rw [herror] at htext
        cases htext
    · obtain ⟨fault, hfault⟩ := text_of_not_admitted h
      cases (hfault r.chunks).symm.trans htext
  · intro h
    obtain ⟨s, hs, ht⟩ := h.text
    rw [h.toAdmitted.text_of_size h.size, h.unbroken, Text.ofBytes?_eq_some_iff.2 hs]
    exact congrArg Except.ok (dropMark_eq_iff.2 ht)

/-- **What is delivered.** A reply is a text exactly if its status is a success, neither its declared length nor its
body is larger than the limit, nothing fails while it is read and its bytes are those of the text, perhaps behind a
byte order mark. The cut into pieces decides nothing but which size is named when the limit is passed. And after any
number of pieces what is kept is what has arrived, within the limit. -/
theorem text_delivers (limit : Nat) (r : Response) :
    (∀ t, r.text limit = .ok t ↔ r.Delivers limit t) ∧
      (∀ chunks, chunks.flatten = r.body →
        ({ r with chunks } : Response).text limit = r.text limit ∨
          ∃ m n, ({ r with chunks } : Response).text limit = .error (.overLimit m limit) ∧
            r.text limit = .error (.overLimit n limit)) ∧
      ∀ front back kept, r.chunks = front ++ back → collect limit [] front = .ok kept →
        kept = front.flatten ∧ kept.length ≤ limit ∧ collect limit [] r.chunks = collect limit kept back := by
  refine ⟨fun t => text_eq_ok_iff, fun chunks => text_cut, fun front back kept hchunks hkept => ?_⟩
  obtain ⟨hflatten, hlength⟩ := (collect_eq_ok_iff (Nat.zero_le limit)).1 hkept
  refine ⟨hflatten, hlength, ?_⟩
  rw [hchunks, collect_append, hkept]
  rfl

/-- A reply with a byte order mark whose last character arrives in two pieces. -/
def cutReply : Response := ⟨206, none, [[0xef, 0xbb, 0xbf, 0x61, 0xc3], [0xa9]], false⟩

/-- Its body has as many bytes as are allowed, and the character is whole. In one piece it is the same text. -/
theorem text_delivers_cutReply :
    cutReply.Delivers 6 ['a', 'é'] ∧ cutReply.text 6 = .ok ['a', 'é'] ∧
      [cutReply.body].flatten = cutReply.body ∧
      ({ cutReply with chunks := [cutReply.body] } : Response).text 6 = .ok ['a', 'é'] ∧
      cutReply.chunks = [[0xef, 0xbb, 0xbf, 0x61, 0xc3]] ++ [[0xa9]] ∧
      collect 6 [] [[0xef, 0xbb, 0xbf, 0x61, 0xc3]] = .ok [0xef, 0xbb, 0xbf, 0x61, 0xc3] ∧
      ([0xef, 0xbb, 0xbf, 0x61, 0xc3] : List UInt8).length ≤ 6 ∧
      collect 6 [] cutReply.chunks = collect 6 [0xef, 0xbb, 0xbf, 0x61, 0xc3] [[0xa9]] := by
  obtain ⟨htext, hcut, hkept⟩ := text_delivers 6 cutReply
  have hdelivers : cutReply.Delivers 6 ['a', 'é'] :=
    ⟨⟨by decide, by simp [cutReply]⟩, by decide, rfl, byteOrderMark :: ['a', 'é'], by decide, .inl rfl⟩
  have hok := (htext _).2 hdelivers
  have hpiece : [cutReply.body].flatten = cutReply.body := rfl
  obtain ⟨-, hlength, hrest⟩ := hkept [[0xef, 0xbb, 0xbf, 0x61, 0xc3]] [[0xa9]] _ rfl rfl
  refine ⟨hdelivers, hok, hpiece, ?_, rfl, rfl, hlength, hrest⟩
  rcases hcut _ hpiece with h | ⟨m, n, -, h⟩
  · exact h.trans hok
  · rw [hok] at h
    cases h

end Response
end Fetch
end StylePrune
