import TextTemplate.Token.Basic

/-!
# Stretches of a token list

A stretch of a token list lies between two positions. A negative position is counted from the end of
the list, so a stretch that starts at one holds the last tokens, and goes on with the first. Where no
position is negative, the stretch is a range of the list itself.
-/

namespace TextTemplate

/-- A stretch of a token list, with its places counted so that none is negative. -/
structure Stretch where
  /-- The tokens at their places. -/
  tokens : Array Token
  /-- How many places lie before the first token of the list. -/
  lead : Nat
  /-- The place at which the stretch starts. -/
  start : Nat
  /-- The place before which it ends. -/
  stop : Nat

namespace Stretch

/-- The stretch between two positions of a list. No token is counted from the end past the first. -/
def between (tokens : Array Token) (start stop : Int) : Stretch :=
  let lead := (-start).toNat
  { tokens :=
      if tokens.size < lead then #[] else tokens.extract (tokens.size - lead) tokens.size ++ tokens
    lead := lead
    start := (start + lead).toNat
    stop := (stop + lead).toNat }

/-- The position in the list of a place. -/
def position (s : Stretch) (place : Nat) : Int :=
  place - s.lead

theorem between_natCast (tokens : Array Token) (start stop : Nat) :
    between tokens start stop = ⟨tokens, 0, start, stop⟩ := by
  simp [between]

theorem between_getElem? {tokens : Array Token} {back : Nat} (hback : back ≤ tokens.size)
    (hpos : 0 < back) (stop : Int) :
    (between tokens (-back) stop).tokens[0]? = tokens[tokens.size - back]? := by
  have hlead : (-(-(back : Int))).toNat = back := by omega
  simp only [between, hlead, if_neg (Nat.not_lt.2 hback)]
  rw [Array.getElem?_append_left (by simp; omega)]
  simp only [Array.getElem?_extract]
  grind

end Stretch

end TextTemplate
