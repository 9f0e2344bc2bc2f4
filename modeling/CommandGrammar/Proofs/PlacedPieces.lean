import CommandGrammar.Proofs.FailureSpans
import CommandGrammar.Proofs.UntouchedSlots

/-!
# The place of the next piece

The pieces of a text without quotes stand in it one behind the other, with separator characters
around them. `placedPieces` keeps what is in front of each piece, so the place of the piece that a
run stopped at is known.

The error of a run keeps no places: the pieces left are glued by the first separator character, and
the span is found by searching for this text. `error_span_places_next_iff` says when the span is at
the place of the next piece: the text left stands there as it is, or it stands nowhere and no later
place in the source shows the piece.
-/

namespace CommandGrammar

open Cursor (Shows)

/-- The characters of a text that do not separate. -/
def withoutSeparators (separators text : List Char) : List Char :=
  text.filter fun c => !separators.contains c

/-- A text has only separator characters when nothing is left without them. -/
theorem withoutSeparators_eq_nil {separators text : List Char} :
    withoutSeparators separators text = [] ↔ ∀ c ∈ text, c ∈ separators := by
  simp [withoutSeparators]

/-- A text without separator characters stays as it is. -/
theorem withoutSeparators_eq_self {separators text : List Char} (h : ∀ c ∈ text, c ∉ separators) :
    withoutSeparators separators text = text :=
  List.filter_eq_self.mpr fun c hc => by simpa using h c hc

/-- Separator characters are left out of both parts of a text. -/
@[simp] theorem withoutSeparators_append (separators front back : List Char) :
    withoutSeparators separators (front ++ back) =
      withoutSeparators separators front ++ withoutSeparators separators back :=
  List.filter_append ..

namespace Split

/-- A piece that ends here with what is in front of it, unless it is empty. -/
def placeEnded (front held : List Char) : List (List Char × List Char) :=
  if held.isEmpty then [] else [(front, held.reverse)]

/-- The pieces of the text ahead, each with what is in front of it; the characters of the piece
under way are held in reverse. -/
def placed (separators : List Char) :
    (front held ahead : List Char) → List (List Char × List Char)
  | front, held, [] => placeEnded front held
  | front, held, c :: rest =>
    if separators.contains c then
      placeEnded front held ++ placed separators (front ++ held.reverse ++ [c]) [] rest
    else placed separators front (c :: held) rest

/-- The piece that ends here is the one that was held. -/
theorem flatten_placeEnded (front held : List Char) :
    ((placeEnded front held).map Prod.snd).flatten = held.reverse := by
  unfold placeEnded
  split <;> simp_all

/-- The pieces make up the text without its separator characters. -/
theorem flatten_placed (separators front held ahead : List Char) :
    ((placed separators front held ahead).map Prod.snd).flatten =
      held.reverse ++ withoutSeparators separators ahead := by
  fun_induction placed separators front held ahead with
  | case1 front held => simpa [withoutSeparators] using flatten_placeEnded front held
  | case2 front held c rest hsep ih =>
    have hc : c ∈ separators := List.contains_iff_mem.mp hsep
    rw [List.map_append, List.flatten_append, flatten_placeEnded, ih]
    simp [withoutSeparators, hc]
  | case3 front held c rest hsep ih =>
    have hc : c ∉ separators := mt List.contains_iff_mem.mpr hsep
    rw [ih]
    simp [withoutSeparators, hc]

/-- The pieces with their places are the pieces of the text. -/
theorem placed_pieces {separators ahead : List Char} (h : Unquoted separators ahead) (fresh : Bool)
    (front held : List Char) :
    (placed separators front held ahead).map Prod.snd =
      pieces separators none fresh held ahead := by
  have hended : ∀ front held : List Char,
      (placeEnded front held).map Prod.snd = emit held.reverse [] := fun front held => by
    unfold placeEnded emit
    split <;> simp_all
  induction ahead generalizing fresh front held with
  | nil =>
    rw [placed, hended]
    rfl
  | cons c rest ih =>
    rcases Unquoted.head h with ⟨hsep | ⟨hsep, hquote⟩, hrest⟩
    · rw [placed, if_pos (List.contains_iff_mem.mpr hsep), List.map_append, hended,
        ih hrest true, ← emit_eq_append, pieces_end hsep]
    · rw [placed, if_neg (mt List.contains_iff_mem.mp hsep), ih hrest false,
        pieces_hold hsep hquote]

/-- A piece stands at its place, and behind what is in front of it there is nothing but this piece,
the later ones and separator characters. -/
theorem placed_stands {separators front held ahead before piece : List Char} {k : Nat}
    (hheld : ∀ c ∈ held, c ∉ separators)
    (h : (placed separators front held ahead)[k]? = some (before, piece)) :
    ∃ behind, front ++ held.reverse ++ ahead = before ++ behind ∧ piece <+: behind ∧
      withoutSeparators separators behind =
        (((placed separators front held ahead).map Prod.snd).drop k).flatten := by
  fun_induction placed separators front held ahead generalizing k with
  | case1 front held =>
    unfold placeEnded at h ⊢
    split at h
    · cases h
    · rename_i hfilled
      cases k with
      | succ k => cases h
      | zero =>
        cases h
        refine ⟨held.reverse, by simp, List.prefix_refl _, ?_⟩
        rw [withoutSeparators_eq_self fun c hc => hheld c (List.mem_reverse.mp hc)]
        simp [hfilled]
  | case2 front held c rest hsep ih =>
    have hc : c ∈ separators := List.contains_iff_mem.mp hsep
    cases held with
    | nil =>
      obtain ⟨behind, htext, hpiece, hleft⟩ := ih (by simp) h
      exact ⟨behind, by simpa using htext, hpiece, hleft⟩
    | cons d held =>
      cases k with
      | succ k =>
        obtain ⟨behind, htext, hpiece, hleft⟩ := ih (by simp) h
        exact ⟨behind, by simpa using htext, hpiece, hleft⟩
      | zero =>
        cases h
        refine ⟨(d :: held).reverse ++ c :: rest, List.append_assoc .., List.prefix_append _ _, ?_⟩
        have hkept := withoutSeparators_eq_self fun e he => hheld e (List.mem_reverse.mp he)
        have hrest := flatten_placed separators (before ++ (d :: held).reverse ++ [c]) [] rest
        rw [withoutSeparators_append, hkept, List.drop_zero, List.map_append, List.flatten_append,
          flatten_placeEnded, hrest]
        simp [withoutSeparators, hc]
  | case3 front held c rest hsep ih =>
    have hc : c ∉ separators := mt List.contains_iff_mem.mpr hsep
    have hnext : ∀ d ∈ c :: held, d ∉ separators := fun d hd =>
      (List.mem_cons.mp hd).elim (fun heq => heq ▸ hc) (hheld d)
    obtain ⟨behind, htext, hpiece, hleft⟩ := ih hnext h
    exact ⟨behind, by simpa using htext, hpiece, hleft⟩

end Split

/-- The pieces of a text, each with what is in front of it. Blank characters at the front of the
text belong to no piece. -/
def placedPieces (text separators : String) : List (List Char × List Char) :=
  Split.placed separators.toList (text.toList.takeWhile isBlank) [] (trimFront text).toList

/-- The pieces of a text without quotes, without their places. -/
theorem placedPieces_pieces {text separators : String}
    (h : ∀ c ∈ text.toList, isQuote c = false) :
    (placedPieces text separators).map (fun place => String.ofList place.2) =
      split (trimFront text) separators := by
  have hunquoted : Unquoted separators.toList (trimFront text).toList := fun c hc hquote => by
    rw [trimFront, String.toList_ofList] at hc
    simp [h c ((List.dropWhile_suffix _).mem hc)] at hquote
  rw [split, ← Split.placed_pieces hunquoted true, List.map_map]
  rfl

/-- A piece stands at its place, with nothing but itself, the later pieces and separator characters
from there on. -/
theorem placedPieces_stands {text separators : String} {k : Nat} {front piece : List Char}
    (h : (placedPieces text separators)[k]? = some (front, piece)) :
    ∃ behind, text.toList = front ++ behind ∧ piece <+: behind ∧
      withoutSeparators separators.toList behind =
        (((placedPieces text separators).map Prod.snd).drop k).flatten := by
  obtain ⟨behind, htext, hpiece, hleft⟩ := Split.placed_stands (by simp) h
  refine ⟨behind, ?_, hpiece, hleft⟩
  rw [← htext, trimFront, String.toList_ofList, List.reverse_nil, List.append_nil,
    List.takeWhile_append_dropWhile]

/-- With the separator of the texts alone a walk changes no segment. -/
theorem Walk.segments_eq {separators : List String} {own : String} {start c : Cursor}
    {past before left : List Token} (h : Shows own start before left)
    (hown : ∀ separator ∈ separators, separator = own) (walk : Walk separators start past c) :
    c.segments = start.segments := by
  induction walk with
  | here => rfl
  | read walk listed fetch ih =>
    obtain ⟨rest, hrest⟩ := walk.shows h
    rw [hown _ listed] at fetch
    rw [Cursor.fetch_segments_self hrest.owned fetch, ih]
  | back _ ih => rw [Cursor.pushBack_segments, ih]

/-- What is left of one text is nothing, or its last pieces glued together. -/
theorem rest_of_text {own : String} {c : Cursor} {past left : List Token} {pieces : List String}
    (h : Shows own c past left) (hsegments : c.segments = [.text pieces own]) :
    c.rest = [] ∨
      past.length < pieces.length ∧
        c.rest = [.text ((glue own).intercalate (pieces.drop past.length))] := by
  rcases h.cases with ⟨hend, -⟩ | ⟨before, u, after, rfl, -, -⟩ |
      ⟨before, front, piece, back, after, rfl, hpast, -⟩
  · exact .inl (by simp [Cursor.rest, Cursor.ahead, hend])
  · -- A segment of units is not the text.
    cases before <;> simp at hsegments
  · have hbefore : before = [] := by
      cases before with
      | nil => rfl
      | cons s before => simp at hsegments
    subst hbefore
    obtain ⟨rfl, rfl⟩ : front ++ piece :: back = pieces ∧ after = [] := by
      simpa using hsegments
    have hlength : past.length = front.length := by
      simpa using congrArg List.length hpast
    refine .inr ⟨by simp [hlength], ?_⟩
    simp [Cursor.rest, Cursor.ahead, Segment.dropPieces, Segment.rejoin, hlength, glue]

/-- A text is read as one segment with all its pieces. -/
theorem tokenize_text_segments {text separator : String} {excluded : List String} {refuse : Bool}
    {start : Cursor} (h : Cursor.tokenize (.text text) separator excluded refuse = .ok start) :
    start.segments = [.text (split (trimFront text) separator) separator] := by
  unfold Cursor.tokenize at h
  cases hpieces : split (trimFront text) separator with
  | nil => simp [Cursor.inputSegments, Cursor.textSegment?, hpieces] at h
  | cons piece pieces =>
    simp [Cursor.inputSegments, Cursor.textSegment?, hpieces, Cursor.ofSegments, Segment.size] at h
    rw [← h]

/-- The remainder of a run on a text is nothing, or the last pieces of the text glued together. -/
theorem run_remainder_pieces {command : Command} (hone : command.OneSeparator) (source : String) :
    let pieces := split (trimFront source) command.separator
    (command.run (.text source)).remainder = [] ∨ ∃ k < pieces.length,
      (command.run (.text source)).remainder =
        [.text ((glue command.separator).intercalate (pieces.drop k))] := by
  intro pieces
  rcases run_remainder command (.text source) with hnil | ⟨start, past, c, hstart, hwalk, hrest⟩
  · exact .inl hnil
  · have hown := fun separator => @eq_of_mem_separators command hone separator
    have hshows := tokenize_tokens hstart
    obtain ⟨left, hc, -⟩ := hwalk.shows_whole hshows hown
    have hsegments := (hwalk.segments_eq hshows hown).trans (tokenize_text_segments hstart)
    rw [hrest]
    rw [List.append_nil] at hc
    exact (rest_of_text hc hsegments).imp_right fun ⟨hlt, htext⟩ => ⟨_, hlt, htext⟩

/-- Pieces glued together are the pieces without the separator characters. -/
theorem withoutSeparators_intercalate {separators : String} (hsep : separators ≠ "")
    {pieces : List String} (h : ∀ piece ∈ pieces, ∀ c ∈ piece.toList, c ∉ separators.toList) :
    withoutSeparators separators.toList ((glue separators).intercalate pieces).toList =
      (pieces.map String.toList).flatten := by
  obtain ⟨g, hg, hglue⟩ := exists_glue hsep
  induction pieces with
  | nil => rfl
  | cons piece rest ih =>
    have hpiece := withoutSeparators_eq_self (h piece List.mem_cons_self)
    cases rest with
    | nil => simpa using hpiece
    | cons next rest =>
      have hrest := ih fun p hp => h p (List.mem_cons_of_mem _ hp)
      have hskip : withoutSeparators separators.toList [g] = [] :=
        withoutSeparators_eq_nil.mpr fun c hc => List.mem_singleton.mp hc ▸ hg
      rw [String.intercalate_cons_cons, String.toList_append, String.toList_append,
        withoutSeparators_append, withoutSeparators_append, hpiece, hglue, hskip, hrest]
      simp

/-- The leading piece of a text that begins with a run of other characters and goes on with a
separator character or not at all is this run. -/
theorem leadingPiece_append {separators piece back : List Char} (hne : piece ≠ [])
    (hpiece : ∀ c ∈ piece, c ∉ separators) (hback : ∀ c ∈ back.head?, c ∈ separators) :
    leadingPiece separators (piece ++ back) = piece := by
  have hkept : ∀ c ∈ piece, (!separators.contains c) = true := fun c hc => by
    simpa using hpiece c hc
  have hend : back.takeWhile (fun c => !separators.contains c) = [] := by
    cases back with
    | nil => rfl
    | cons c back => simp [hback c rfl]
  have hrun : (piece ++ back).takeWhile (fun c => !separators.contains c) = piece := by
    rw [List.takeWhile_append_of_pos hkept, hend, List.append_nil]
  have hfront : (piece ++ back).dropWhile separators.contains = piece ++ back := by
    cases piece with
    | nil => exact absurd rfl hne
    | cons c piece => simp [hpiece c List.mem_cons_self]
  unfold leadingPiece
  dsimp only
  rw [hfront, hrun, if_neg (by simpa using hne)]

/-- The leading piece of pieces glued together is the first of them. -/
theorem leadingPiece_intercalate {separators piece : String} {others : List String}
    (hsep : separators ≠ "") (h : PlainPiece separators piece) :
    leadingPiece separators.toList ((glue separators).intercalate (piece :: others)).toList =
      piece.toList := by
  obtain ⟨g, hg, hglue⟩ := exists_glue hsep
  have hne : piece.toList ≠ [] := by simpa using h.1
  have hfree : ∀ c ∈ piece.toList, c ∉ separators.toList := fun c hc => (h.2 c hc).1
  cases others with
  | nil => simpa using @leadingPiece_append _ _ [] hne hfree (by simp)
  | cons next others =>
    rw [String.intercalate_cons_cons, String.toList_append, String.toList_append, hglue,
      List.append_assoc]
    exact leadingPiece_append hne hfree (by simpa using hg)

/-- A text that has all that does not separate behind a place stands nowhere later. -/
theorem length_le_of_stands {separators source front behind text : List Char}
    (hsource : source = front ++ behind) (hhead : ∃ c ∈ behind.head?, c ∉ separators)
    (hleft : withoutSeparators separators behind = withoutSeparators separators text)
    {other : List Char} (h : other ++ text <+: source) : other.length ≤ front.length := by
  have hfront : front <+: source := ⟨behind, hsource.symm⟩
  have hother : other <+: source := (List.prefix_append _ _).trans h
  rcases List.prefix_or_prefix_of_prefix hother hfront with hle | ⟨mid, rfl⟩
  · exact hle.length_le
  · -- What is between the places separates, and behind the first place comes what does not.
    obtain ⟨back, hback⟩ := h
    have hbehind : behind = mid ++ text ++ back := by
      rw [hsource] at hback
      simpa using hback.symm
    have hmid : withoutSeparators separators mid = [] := by
      rw [hbehind] at hleft
      have hlength := congrArg List.length hleft
      simp only [withoutSeparators_append, List.length_append] at hlength
      exact List.eq_nil_of_length_eq_zero (by omega)
    cases mid with
    | nil => simp
    | cons d mid =>
      obtain ⟨c, hc, hkept⟩ := hhead
      rw [hbehind] at hc
      cases hc
      exact absurd (withoutSeparators_eq_nil.mp hmid d List.mem_cons_self) hkept

/-- Where the leading piece of the text left stands, and that text nowhere later, the span is there
exactly when that text is, or when it stands nowhere and the piece nowhere later. -/
theorem MatchError.spanIn_eq_iff {e : MatchError} {source separator text : String}
    {others : List Token} {front piece : List Char} (hremainder : e.remainder = .text text :: others)
    (hpiece : leadingPiece separator.toList text.toList = piece)
    (hstands : front ++ piece <+: source.toList)
    (hlast : ∀ other, other ++ text.toList <+: source.toList → other.length ≤ front.length) :
    e.spanIn source separator = ⟨byteSize front, byteSize piece⟩ ↔
      front ++ text.toList <+: source.toList ∨
        (¬ text.toList <:+: source.toList ∧
          ∀ other, other ++ piece <+: source.toList → other.length ≤ front.length) := by
  have hfront : front <+: source.toList := (List.prefix_append _ _).trans hstands
  have hspan : ∀ found, found <+: source.toList →
      ((⟨byteSize found, byteSize piece⟩ : ByteSpan) = ⟨byteSize front, byteSize piece⟩ ↔
        found = front) := fun found hfound => by
    rw [ByteSpan.mk.injEq]
    exact ⟨fun h => eq_of_byteSize_eq hfound hfront h.1, fun h => ⟨h ▸ rfl, rfl⟩⟩
  have hoccurs : ∀ {before text : List Char}, before ++ text <+: source.toList →
      text <:+: source.toList := fun h => (List.suffix_append _ _).isInfix.trans h.isInfix
  cases hwhole : lastBefore? text.toList source.toList with
  | some found =>
    have hfound := lastBefore?_eq_some hwhole
    have heq : e.spanIn source separator = ⟨byteSize found, byteSize piece⟩ := by
      simp [spanIn, hremainder, placeOf?, hwhole, hpiece]
    rw [heq, hspan found ((List.prefix_append _ _).trans hfound)]
    constructor
    · rintro rfl
      exact .inl hfound
    · rintro (h | ⟨hnone, -⟩)
      · exact Option.some.inj (hwhole.symm.trans (lastBefore?_eq_some_iff.mpr ⟨h, hlast⟩))
      · exact absurd (hoccurs hfound) hnone
  | none =>
    have hnone := lastBefore?_eq_none hwhole
    cases hfirst : lastBefore? piece source.toList with
    | none => exact absurd (hoccurs hstands) (lastBefore?_eq_none hfirst)
    | some found =>
      have heq : e.spanIn source separator = ⟨byteSize found, byteSize piece⟩ := by
        simp [spanIn, hremainder, placeOf?, hwhole, hpiece, hfirst]
      rw [heq, hspan found ((List.prefix_append _ _).trans (lastBefore?_eq_some hfirst))]
      constructor
      · rintro rfl
        exact .inr ⟨hnone, fun _ => length_le_of_lastBefore? hfirst⟩
      · rintro (h | ⟨-, h⟩)
        · exact absurd (hoccurs h) hnone
        · exact Option.some.inj (hfirst.symm.trans (lastBefore?_eq_some_iff.mpr ⟨hstands, h⟩))

/-- The pieces of a text without quotes from a place on, glued together, begin with the piece that
stands at the place, and stand nowhere later than there. -/
theorem placedPieces_glued {source separators : String} (hsep : separators ≠ "")
    (hquote : ∀ c ∈ source.toList, isQuote c = false) {k : Nat} {front piece : List Char}
    (h : (placedPieces source separators)[k]? = some (front, piece)) :
    let text := (glue separators).intercalate ((split (trimFront source) separators).drop k)
    front ++ piece <+: source.toList ∧ leadingPiece separators.toList text.toList = piece ∧
      ∀ other, other ++ text.toList <+: source.toList → other.length ≤ front.length := by
  intro text
  have hpieces := @placedPieces_pieces source separators hquote
  have hplain : ∀ p ∈ split (trimFront source) separators, PlainPiece separators p := fun p hp =>
    plainPiece_of_mem_split (fun c hc hq => by
      rw [trimFront, String.toList_ofList] at hc
      simp [hquote c ((List.dropWhile_suffix _).mem hc)] at hq) hp
  obtain ⟨behind, hsource, hstands, hrest⟩ := placedPieces_stands h
  have hdrop : (split (trimFront source) separators).drop k =
      String.ofList piece :: (split (trimFront source) separators).drop (k + 1) := by
    refine drop_eq_cons ?_
    rw [← hpieces, List.getElem?_map, h]
    rfl
  have hpiece : PlainPiece separators (String.ofList piece) :=
    hplain _ (List.mem_of_mem_drop (hdrop ▸ List.mem_cons_self))
  have hsame : withoutSeparators separators.toList behind =
      withoutSeparators separators.toList text.toList := by
    rw [hrest, withoutSeparators_intercalate hsep fun p hp c hc =>
      ((hplain p (List.mem_of_mem_drop hp)).2 c hc).1, ← hpieces, List.map_drop, List.map_map]
    simp [Function.comp_def]
  have hlead : leadingPiece separators.toList text.toList = piece := by
    dsimp only [text]
    rw [hdrop, leadingPiece_intercalate hsep hpiece, String.toList_ofList]
  have hhead : ∃ c ∈ behind.head?, c ∉ separators.toList := by
    obtain ⟨back, rfl⟩ := hstands
    cases piece with
    | nil => exact absurd rfl hpiece.1
    | cons c piece => exact ⟨c, rfl, (hpiece.2 c (by simp)).1⟩
  refine ⟨?_, hlead, fun _ => length_le_of_stands hsource hhead hsame⟩
  rw [hsource]
  exact (List.prefix_append_right_inj front).mpr hstands

/-- A run without separators of its own that fails on a source without quotes leaves the pieces
from some place on, glued together. The span of its error is the place of the first of them exactly
when the glued text stands there, or when it stands nowhere in the source and the piece stands
nowhere later. -/
theorem error_span_places_next_iff {command : Command} (hone : command.OneSeparator)
    {source : String} (hquote : ∀ c ∈ source.toList, isQuote c = false) {e : MatchError}
    (h : (command.run (.text source)).error? = some e) (hleft : e.remainder ≠ []) :
    let separator := command.separator
    let places := placedPieces source separator
    let pieces := split (trimFront source) separator
    places.map (fun place => String.ofList place.2) = pieces ∧
      ∃ k front piece, places[k]? = some (front, piece) ∧
        let text := (glue separator).intercalate (pieces.drop k)
        e.remainder = [.text text] ∧ front ++ piece <+: source.toList ∧
          (e.spanIn source separator = ⟨byteSize front, byteSize piece⟩ ↔
            front ++ text.toList <+: source.toList ∨
              (¬ text.toList <:+: source.toList ∧
                ∀ other, other ++ piece <+: source.toList → other.length ≤ front.length)) := by
  intro separator places pieces
  have hpieces : places.map (fun place => String.ofList place.2) = pieces :=
    placedPieces_pieces hquote
  rw [(command.run_agrees _).remainder e h] at hleft
  obtain ⟨k, hlt, hrest⟩ : ∃ k < pieces.length, (command.run (.text source)).remainder =
      [.text ((glue separator).intercalate (pieces.drop k))] :=
    (run_remainder_pieces hone source).resolve_left hleft
  have hremainder := ((command.run_agrees _).remainder e h).trans hrest
  have hplaces : k < places.length := by rwa [← hpieces, List.length_map] at hlt
  obtain ⟨⟨front, piece⟩, hplace⟩ : ∃ place, places[k]? = some place :=
    ⟨_, List.getElem?_eq_getElem hplaces⟩
  obtain ⟨hfront, hlead, hlast⟩ := placedPieces_glued command.separates hquote hplace
  exact ⟨hpieces, k, front, piece, hplace, hremainder, hfront,
    MatchError.spanIn_eq_iff hremainder hlead hfront hlast⟩

/-- A command that takes a whole number. -/
def stepCommand : Command :=
  (Command.ofConfig { CommandConfig.ofName "step" with
    args := (SlotList.ofSlots [⟨"count", .pattern wholePattern, none, false⟩]).toOption.get
      (by decide +kernel) }).toOption.get (by decide +kernel)

/-- No entry of the command has a separator of its own, as it has none. -/
theorem oneSeparator_stepCommand : stepCommand.OneSeparator where
  options _ he := by cases he
  subcommands _ hs := by cases hs
  suboptions _ hs := by cases hs

/-- A number is refused behind the name, with the same word once more behind it. -/
theorem error_span_places_next_step :
    let source := "step up then up"
    let e : MatchError := ⟨.unmatched "count" "up", [.text "up then up"]⟩
    let separator := stepCommand.separator
    let places := placedPieces source separator
    let pieces := split (trimFront source) separator
    (∀ c ∈ source.toList, isQuote c = false) ∧ (stepCommand.run (.text source)).error? = some e ∧
      e.remainder ≠ [] ∧ e.spanIn source separator = ⟨5, 2⟩ ∧
      places.map (fun place => String.ofList place.2) = pieces ∧
      ∃ k front piece, places[k]? = some (front, piece) ∧
        let text := (glue separator).intercalate (pieces.drop k)
        e.remainder = [.text text] ∧ front ++ piece <+: source.toList ∧
          (e.spanIn source separator = ⟨byteSize front, byteSize piece⟩ ↔
            front ++ text.toList <+: source.toList ∨
              (¬ text.toList <:+: source.toList ∧
                ∀ other, other ++ piece <+: source.toList → other.length ≤ front.length)) := by
  intro source e separator places pieces
  have hquote : ∀ c ∈ source.toList, isQuote c = false := by
    have hany : source.toList.any isQuote = false := by decide
    exact fun c hc => Bool.eq_false_iff.mpr (List.any_eq_false.mp hany c hc)
  have hfault : (stepCommand.run (.text source)).fault = some e.fault := by decide +kernel
  have hremainder : (stepCommand.run (.text source)).remainder = e.remainder := by
    have htexts : (stepCommand.run (.text source)).remainder.map Token.asText? =
        [some "up then up"] := by decide +kernel
    obtain ⟨token, rest, hcons, htext, hnil⟩ := List.map_eq_cons_iff.mp htexts
    cases token with
    | unit u => cases htext
    | text found =>
      cases htext
      rw [hcons, List.map_eq_nil_iff.mp hnil]
  have herror : (stepCommand.run (.text source)).error? = some e :=
    run_error_of_parts hfault hremainder
  have hleft : e.remainder ≠ [] := List.cons_ne_nil _ _
  exact ⟨hquote, herror, hleft, by decide +kernel,
    error_span_places_next_iff oneSeparator_stepCommand hquote herror hleft⟩

/-- No entry of a command that has a name only has a separator of its own. -/
theorem oneSeparator_bareCommand : bareCommand.OneSeparator where
  options _ he := by cases he
  subcommands _ hs := by cases hs
  suboptions _ hs := by cases hs

/-- Two separators behind the first word: the text left stands nowhere in the source, and the span
is at the last place of the word instead of at its start. -/
theorem doubled_separator_span :
    let source := "up  go up"
    let e : MatchError := ⟨.headerMismatch "up", [.text "up go up"]⟩
    bareCommand.OneSeparator ∧ (∀ c ∈ source.toList, isQuote c = false) ∧
      (bareCommand.run (.text source)).error? = some e ∧
      (placedPieces source bareCommand.separator)[0]? = some ([], ['u', 'p']) ∧
      e.spanIn source bareCommand.separator = ⟨7, 2⟩ := by
  intro source e
  have hquote : ∀ c ∈ source.toList, isQuote c = false := by
    have hany : source.toList.any isQuote = false := by decide
    exact fun c hc => Bool.eq_false_iff.mpr (List.any_eq_false.mp hany c hc)
  have hfault : (bareCommand.run (.text source)).fault = some e.fault := by decide +kernel
  have hremainder : (bareCommand.run (.text "up  go up")).remainder = [.text "up go up"] := by rfl
  have herror : (bareCommand.run (.text source)).error? = some e :=
    run_error_of_parts hfault hremainder
  exact ⟨oneSeparator_bareCommand, hquote, herror, by decide +kernel, by decide +kernel⟩

end CommandGrammar
