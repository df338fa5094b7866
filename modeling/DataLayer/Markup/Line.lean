import DataLayer.Markup.Marked
import DataLayer.Text.Width

/-! Marked texts cut into lines, and lines into the runs of characters between the borders of their
parts. -/

namespace DataLayer.Markup

open DataLayer.Text

namespace Span

/-- The part of a span between two places, counted from the first of them. -/
def within? (start stop : Nat) (span : Span) : Option Span :=
  let first := max span.start start
  let last := min span.stop stop
  if first < last then some { span with start := first - start, stop := last - start } else none

/-- A span so many characters later. -/
def shifted (count : Nat) (span : Span) : Span :=
  { span with start := span.start + count, stop := span.stop + count }

end Span

namespace Marked

/-- What stands from a place on, given by its characters. Parts without characters are lost. -/
def sliceFrom (marked : Marked) (start : Nat) (chars : List Char) : Marked where
  chars
  spans := marked.spans.filterMap (Span.within? start (start + chars.length))

/-- The slices of a text from a place on, with a gap between each and the next. -/
def slicesFrom (marked : Marked) (gap start : Nat) : List (List Char) → List Marked
  | [] => []
  | first :: rest =>
    marked.sliceFrom start first :: marked.slicesFrom gap (start + first.length + gap) rest

/-- A text in slices with a gap between each and the next. A text in one slice stays as it is. -/
def divided (marked : Marked) (gap : Nat) (slices : List (List Char)) : List Marked :=
  match slices with
  | [] | [_] => [marked]
  | _ => marked.slicesFrom gap 0 slices

/-- Two texts, one after the other. -/
def append (first second : Marked) : Marked where
  chars := first.chars ++ second.chars
  spans := first.spans ++ second.spans.map (Span.shifted first.chars.length)

/-- A text with spaces after it, which the parts at its end reach over. -/
def stretched (count : Nat) (marked : Marked) : Marked where
  chars := marked.chars ++ List.replicate count ' '
  spans := marked.spans.map fun span =>
    if marked.chars.length ≤ span.stop then { span with stop := span.stop + count } else span

/-- A text with other characters. Where these are fewer, the parts end with them. -/
def withChars (marked : Marked) (chars : List Char) : Marked where
  chars
  spans :=
    if marked.chars.length ≤ chars.length then marked.spans
    else (marked.spans.filter fun span => span.start < chars.length).map fun span =>
      { span with stop := min span.stop chars.length }

/-- Characters cut at places, which are in order and counted from `offset`. -/
def cutAt (offset : Nat) (chars : List Char) : List Nat → List (List Char)
  | [] => [chars]
  | place :: rest =>
    chars.take (place - offset) :: cutAt (max offset place) (chars.drop (place - offset)) rest

/-- The runs of characters between the borders of the parts of a text. -/
def runs (marked : Marked) : List (List Char) :=
  let borders := marked.spans.flatMap fun span => [span.start, span.stop]
  (cutAt 0 marked.chars (borders.mergeSort (· ≤ ·))).filter (!·.isEmpty)

end Marked
end DataLayer.Markup
