import CommandGrammar.Matching.Outcome
import CommandGrammar.Text.Blank
import CommandGrammar.Text.Occurrence

/-!
# Where an input fails

The part of a source text that an error is about: the first token left. Tokens do not keep
their places, so the place is searched for from the end of the source.
-/

namespace CommandGrammar

/-- A part of a text, counted in bytes of UTF-8. -/
structure ByteSpan where
  /-- The number of bytes in front of it. -/
  start : Nat
  /-- The number of bytes in it. -/
  size : Nat
  deriving DecidableEq, Repr

/-- The number of bytes up to the end of a span. -/
def ByteSpan.stop (span : ByteSpan) : Nat := span.start + span.size

/-- The first run of characters that do not separate, or the whole text if there is none. -/
def leadingPiece (separators text : List Char) : List Char :=
  let ahead := text.dropWhile separators.contains
  let piece := ahead.takeWhile fun c => !separators.contains c
  if piece.isEmpty then text else piece

/-- The place of a text that is left of a source: what is in front of its last occurrence, or
of the last one of its first piece. -/
def placeOf? (source text piece : List Char) : Option (List Char) :=
  (lastBefore? text source).or (lastBefore? piece source)

/-- The part of a source that an error is about: the first piece of the first text left, as
far to the back as it is found; the end of the source when no text is left or it is not
found. -/
def MatchError.spanIn (e : MatchError) (source separator : String) : ByteSpan :=
  let atEnd : ByteSpan := ⟨byteSize (trimBack source).toList, 0⟩
  match e.remainder with
  | .text text :: _ =>
    let piece := leadingPiece separator.toList text.toList
    match placeOf? source.toList text.toList piece with
    | some front => ⟨byteSize front, byteSize piece⟩
    | none => atEnd
  | _ => atEnd

end CommandGrammar
