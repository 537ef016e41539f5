import FreshIndex.Text.LowerCase

/-!
This module contains patterns for names. A pattern is looked for as a part of the name, or as a
subsequence of it; anchors pin it to the start and to the end of the name.
-/

namespace FreshIndex

structure PatternOptions where
  anchorStart : Bool
  anchorEnd : Bool
  subsequence : Bool
  ignoreCase : Bool
  deriving Repr, DecidableEq

namespace Pattern

def occursIn (pattern : List Char) : (name : List Char) → Bool
  | [] => pattern.isEmpty
  | c :: rest => pattern.isPrefixOf (c :: rest) || occursIn pattern rest

/-- Whether `name` holds `pattern` without gaps, at the places that the anchors ask for. -/
def isPartOf (options : PatternOptions) (pattern name : List Char) : Bool :=
  match options.anchorStart, options.anchorEnd with
  | true, true => name == pattern
  | true, false => pattern.isPrefixOf name
  | false, true => pattern.isSuffixOf name
  | false, false => occursIn pattern name

/--
Whether `name` holds the characters of `pattern` in order. An anchored end of the pattern is
compared with the end of the name, and both are then left out of the search. If both ends are
anchored and the pattern has one character, that character may be compared twice.
-/
def isSubsequenceOf (options : PatternOptions) (pattern name : List Char) : Bool :=
  let startsWell := !options.anchorStart || name.head? == pattern.head?
  let endsWell := !options.anchorEnd || name.getLast? == pattern.getLast?
  let patternRest := if options.anchorStart then pattern.drop 1 else pattern
  let nameRest := if options.anchorStart then name.drop 1 else name
  startsWell && endsWell &&
    if options.anchorEnd && !patternRest.isEmpty then
      !nameRest.isEmpty && patternRest.dropLast.isSublist nameRest.dropLast
    else
      patternRest.isSublist nameRest

def isFoundIn (options : PatternOptions) (pattern name : List Char) : Bool :=
  if options.subsequence then isSubsequenceOf options pattern name
  else isPartOf options pattern name

/-- Whether `pattern` accepts `name`. The empty pattern accepts every name. -/
def accepts (options : PatternOptions) (pattern name : String) : Bool :=
  if pattern.isEmpty then
    true
  else if options.ignoreCase then
    isFoundIn options (Text.lowerCase pattern).toList (Text.lowerCase name).toList
  else
    isFoundIn options pattern.toList name.toList

end Pattern

end FreshIndex
