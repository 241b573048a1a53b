import Delimited.Proofs.TextReading

/-!
# How often a read asks its source

`Metered` is a source that counts the requests made of it. Reading is the same over any source, so
the counter tells how many requests a read makes: `Reader.requestsToRead`. All loops of a read are paid for
by one account. A character that is taken pays for the request that took it and for two more, and
what is left unpaid is bounded by a constant at each level, two requests for a whole read:
`Reader.requestsToRead_le`.
-/

namespace Delimited

open CharSource (unread)

/-- A source and the number of requests made of it. -/
structure Metered (σ : Type) where
  source : σ
  requests : Nat := 0

variable {σ : Type} [CharSource σ]

namespace Metered

/-- What the source gave for a request, which is counted. -/
def count (metered : Metered σ) (pull : Pull σ) : Pull (Metered σ) :=
  { char := pull.char
    failure := pull.failure
    source := { source := pull.source, requests := metered.requests + 1 } }

/-- A metered source hands out the characters of the source. -/
instance : CharSource (Metered σ) where
  next metered := metered.count (CharSource.next metered.source)
  peek metered := metered.count (CharSource.peek metered.source)
  unread metered := unread metered.source
  char_next metered := CharSource.char_next metered.source
  unread_next metered := CharSource.unread_next metered.source
  char_peek metered := CharSource.char_peek metered.source
  unread_peek metered := CharSource.unread_peek metered.source

/-- The requests made, and three more for each character that is still to be taken. -/
def charge (metered : Metered σ) : Nat :=
  metered.requests + 3 * (unread metered).length

/-- Between two moments more requests are made than the characters taken in between pay for, but at
most this many more. -/
def Owes (before after : Metered σ) (debt : Nat) : Prop :=
  after.charge ≤ before.charge + debt

namespace Owes

variable {before middle after : Metered σ} {debt more : Nat}

/-- Where nothing happens nothing is owed. -/
theorem refl (metered : Metered σ) (debt : Nat) : Owes metered metered debt :=
  Nat.le_add_right _ debt

/-- Debts add up. -/
theorem trans (h : Owes before middle debt) (hmore : Owes middle after more) :
    Owes before after (debt + more) := by
  unfold Owes at *
  omega

/-- More may be owed. -/
theorem mono (h : Owes before after debt) (hle : debt ≤ more) : Owes before after more :=
  Nat.le_trans h (Nat.add_le_add_left hle _)

/-- A request for a character is owed. -/
theorem next (metered : Metered σ) : Owes metered (CharSource.next metered).source 1 := by
  have hrequests : (CharSource.next metered).source.requests = metered.requests + 1 := rfl
  have hle := CharSource.length_unread_next_le metered
  rw [Owes, charge, charge, hrequests]
  omega

/-- Looking ahead is owed. -/
theorem peek (metered : Metered σ) : Owes metered (CharSource.peek metered).source 1 := by
  have hrequests : (CharSource.peek metered).source.requests = metered.requests + 1 := rfl
  rw [Owes, charge, charge, CharSource.unread_peek, hrequests]
  omega

/-- A character that is taken pays for the request, and for two more. -/
theorem of_next {char : Char} (hchar : (CharSource.next before).char = some char)
    (h : Owes (CharSource.next before).source after (debt + 2)) : Owes before after debt := by
  have hrequests : (CharSource.next before).source.requests = before.requests + 1 := rfl
  have hlt := CharSource.length_unread_next_lt hchar
  unfold Owes charge at *
  omega

/-- A character that is seen and then taken pays for both. -/
theorem peek_next {metered : Metered σ} {char : Char}
    (h : (CharSource.peek metered).char = some char) :
    Owes metered (CharSource.next (CharSource.peek metered).source).source 0 := by
  have hnext : (CharSource.next (CharSource.peek metered).source).char = some char := by
    rw [CharSource.char_next, CharSource.unread_peek, ← CharSource.char_peek, h]
  have hlt := CharSource.length_unread_next_lt hnext
  have hrequests : (CharSource.next (CharSource.peek metered).source).source.requests =
      metered.requests + 2 := rfl
  rw [CharSource.unread_peek] at hlt
  rw [Owes, charge, charge, hrequests]
  omega

/-- Dropping the rest of a line owes one request, which finds the end of the text. -/
theorem skipLine (metered : Metered σ) (events : Array Event) :
    Owes metered (skipLine metered events).source 1 := by
  fun_induction Delimited.skipLine metered events with
  | case1 metered => exact .next metered
  | case2 metered => exact .next metered
  | case3 metered events pull events' char hchar hne ih =>
      have hrest := ih.mono (Nat.le_add_right 1 2)
      exact .of_next hchar hrest

/-- Reacting to a character between quotes owes one request. -/
theorem reactQuoted (scan : LineScan) (char : Char) (metered : Metered σ) :
    Owes metered (scan.reactQuoted char metered).source 1 := by
  unfold LineScan.reactQuoted
  split
  · dsimp only
    split
    · rename_i hquote
      exact (peek_next hquote).mono (Nat.zero_le 1)
    · exact .peek metered
  · split
    · exact .peek metered
    · exact .refl metered 1

/-- Reacting to text owes one request. -/
theorem reactText (dialect : Dialect) (scan : LineScan) (char : Char) (metered : Metered σ) :
    Owes metered (scan.reactText dialect char metered).source 1 := by
  unfold LineScan.reactText
  split
  · exact .skipLine metered #[]
  · split <;> exact .refl metered 1

/-- Reacting to a character outside quotes owes two requests. -/
theorem reactPlain (dialect : Dialect) (scan : LineScan) (char : Char) (metered : Metered σ) :
    Owes metered (scan.reactPlain dialect char metered).source 2 := by
  unfold LineScan.reactPlain
  split
  · exact .refl metered 2
  · split
    · exact .refl metered 2
    · split
      · dsimp only
        split
        · rename_i hnewline
          exact (peek_next hnewline).mono (Nat.zero_le 2)
        · exact (peek metered).trans (.reactText dialect scan char _)
      · exact (reactText dialect scan char metered).mono (Nat.le_succ 1)

/-- Reacting to a character owes two requests. -/
theorem react (dialect : Dialect) (scan : LineScan) (char : Char) (metered : Metered σ) :
    Owes metered (scan.react dialect char metered).source 2 := by
  unfold LineScan.react
  split
  · exact (reactQuoted scan char metered).mono (Nat.le_succ 1)
  · exact .reactPlain dialect scan char metered
  · exact .reactPlain dialect scan char metered

/-- Scanning a line owes three requests: two for its last character, and one that finds the end of
the text behind it. -/
theorem scanLine (dialect : Dialect) (scan : LineScan) (char : Char) (metered : Metered σ)
    (events : Array Event) :
    Owes metered (scanLine dialect scan char metered events).source 3 := by
  fun_induction Delimited.scanLine dialect scan char metered events with
  | case1 scan char metered => exact (react dialect scan char metered).mono (Nat.le_succ 2)
  | case2 scan char metered => exact (react dialect scan char metered).trans (.next _)
  | case3 scan char metered _ _ _ _ _ _ _ hchar ih =>
      -- the character behind this one pays for what this one owes
      exact (react dialect scan char metered).trans (.of_next hchar ih)

/-- Testing for an empty line owes one request. -/
theorem ofFirst (first : Char) (metered : Metered σ) :
    Owes metered (LineEnd.ofFirst first metered).source 1 := by
  unfold LineEnd.ofFirst
  split
  · exact .refl metered 1
  · split
    · dsimp only
      split
      · rename_i hnewline
        exact (peek_next hnewline).mono (Nat.zero_le 1)
      · exact .peek metered
    · exact .refl metered 1

/-- A read owes two requests. -/
theorem readFields (reader : Reader (Metered σ)) (skipEmpty : Bool) (events : Array Event) :
    Owes reader.source (reader.readFields skipEmpty events).reader.source 2 := by
  fun_induction Reader.readFields reader skipEmpty events with
  | case1 reader => exact (next reader.source).mono (Nat.le_succ 1)
  | case2 reader events pull events' line events'' hchar hnewline ih =>
      exact (of_next hchar ih).mono (Nat.zero_le 2)
  | case3 reader events pull events' line events'' skipped hchar hnewline ih =>
      have hskipped := skipLine pull.source #[]
      exact (of_next hchar (hskipped.trans ih)).mono (Nat.le_succ 1)
  | case4 reader events pull events' first hchar line hcomment lineEnd events'' hempty hskip ih =>
      have hfirst := ofFirst first pull.source
      exact (of_next hchar (hfirst.trans ih)).mono (Nat.le_succ 1)
  | case5 reader events pull events' first hchar line hcomment lineEnd events'' hempty hskip =>
      have hfirst := ofFirst first pull.source
      exact (of_next hchar (hfirst.mono (Nat.le_succ 1))).mono (Nat.zero_le 2)
  | case6 reader events pull events' first hchar line hcomment lineEnd events'' hempty scanned =>
      have hfirst := ofFirst first pull.source
      exact of_next hchar (hfirst.trans (.scanLine reader.options.dialect {} first _ #[]))

end Owes

end Metered

namespace Reader

/-- The reader over the metered source. -/
def metered (reader : Reader σ) : Reader (Metered σ) :=
  { source := { source := reader.source }, options := reader.options, line := reader.line }

/-- How many requests a read makes of the source. -/
def requestsToRead (reader : Reader σ) (skipEmpty : Bool) : Nat :=
  (reader.metered.readFields skipEmpty).reader.source.requests

/-- A read over the metered source finds what the read finds. -/
theorem view_metered (reader : Reader σ) (skipEmpty : Bool) :
    (reader.metered.readFields skipEmpty).view = (reader.readFields skipEmpty).view := by
  rw [readFields_view, readFields_view]
  rfl

/-- A read makes at most three requests for each character that it takes, and two more. -/
theorem requestsToRead_le (reader : Reader σ) (skipEmpty : Bool) :
    reader.requestsToRead skipEmpty +
        3 * (unread (reader.readFields skipEmpty).reader.source).length ≤
      3 * (unread reader.source).length + 2 := by
  have howes := Metered.Owes.readFields reader.metered skipEmpty #[]
  have hrest := congrArg TextReading.rest (reader.view_metered skipEmpty)
  have hunread : unread (reader.metered.readFields skipEmpty).reader.source =
      unread (reader.readFields skipEmpty).reader.source := hrest
  rw [Metered.Owes, Metered.charge, Metered.charge, hunread] at howes
  have hfresh : reader.metered.source.requests = 0 := rfl
  have hsame : unread reader.metered.source = unread reader.source := rfl
  rw [hfresh, hsame] at howes
  rw [requestsToRead]
  omega

end Reader

end Delimited
