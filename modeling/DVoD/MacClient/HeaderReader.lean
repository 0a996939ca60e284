import DVoD.Machine.Run
import DVoD.Text.Delimiter
import DVoD.Text.Utf8

/-!
# Reading a header

`readUntilDoubleCRLF` of `LocalProxyServer.swift`: each callback of `receive` looks for the
blank line in all that has come so far.  `header_read_once` says that how the bytes are cut
into callbacks makes no difference.
-/

namespace DVoD.MacClient

open DVoD.Machine DVoD.Text

abbrev Bytes := List UInt8

/-- What `receive` calls its completion with; an error is there or not. -/
structure Received where
  data : Option Bytes
  isComplete : Bool
  error : Bool
deriving DecidableEq

def Received.bytes (received : Received) : Bytes := received.data.getD []

def Received.ends (received : Received) : Bool := received.isComplete || received.error

/-- `"\r\n\r\n"`. -/
def doubleCRLF : Bytes := [13, 10, 13, 10]

/-- The arguments of the completion. -/
structure HeaderRead where
  headerText : Option (List Char)
  leftover : Bytes
deriving DecidableEq

/-- What one callback comes to: the completion is called, or `receive` once more. -/
inductive Reading where
  | completion (read : HeaderRead)
  | receive (buffer : Bytes)

/-- The callback of `receive`.  The server is there as long as it reads. -/
def readUntilDoubleCRLF (buffer : Bytes) (received : Received) : Reading :=
  let buffer := buffer ++ received.bytes
  match cutAt doubleCRLF buffer with
  | some (headerData, leftover) => .completion ⟨Utf8.decodeStrict headerData, leftover⟩
  | none => if received.ends then .completion ⟨none, []⟩ else .receive buffer

/-! ### A connection that is read -/

/-- `waiting` where a `receive` is under way. -/
structure HeaderReader where
  buffer : Bytes
  waiting : Bool
  completions : List HeaderRead

namespace HeaderReader

def start : HeaderReader := ⟨[], true, []⟩

def callback (s : HeaderReader) (received : Received) : Option HeaderReader :=
  if s.waiting then
    match readUntilDoubleCRLF s.buffer received with
    | .completion read => some { s with waiting := false, completions := s.completions ++ [read] }
    | .receive buffer => some { s with buffer := buffer }
  else none

end HeaderReader

/-- The bytes of the callbacks, in order. -/
def bytesOf (received : List Received) : Bytes := received.flatMap Received.bytes

/-- A way to cut the stream into callbacks, of which only the last may say that it ends. -/
structure Cut (stream : Bytes) (received : List Received) : Prop where
  bytes : bytesOf received = stream
  continues : ∀ r ∈ received.dropLast, r.ends = false

/-- The stream up to the first blank line, and from there on. -/
def FirstAt (stream before after : Bytes) : Prop :=
  stream = before ++ (doubleCRLF ++ after) ∧
    ∀ before' after', stream = before' ++ (doubleCRLF ++ after') → before.length ≤ before'.length

theorem cutAt_doubleCRLF_iff {stream before after : Bytes} :
    cutAt doubleCRLF stream = some (before, after) ↔ FirstAt stream before after :=
  cutAt_eq_some_iff (List.cons_ne_nil _ _)

section Callbacks

variable {buffer : Bytes} {received : Received} {read : HeaderRead}

/-- The cases of a callback, by the stream up to it. -/
theorem readUntilDoubleCRLF_cases (buffer : Bytes) (received : Received) :
    (∃ before after, cutAt doubleCRLF (buffer ++ received.bytes) = some (before, after) ∧
      readUntilDoubleCRLF buffer received = .completion ⟨Utf8.decodeStrict before, after⟩) ∨
    (cutAt doubleCRLF (buffer ++ received.bytes) = none ∧ received.ends = true ∧
      readUntilDoubleCRLF buffer received = .completion ⟨none, []⟩) ∨
    (cutAt doubleCRLF (buffer ++ received.bytes) = none ∧ received.ends = false ∧
      readUntilDoubleCRLF buffer received = .receive (buffer ++ received.bytes)) := by
  unfold readUntilDoubleCRLF
  dsimp only
  cases hcut : cutAt doubleCRLF (buffer ++ received.bytes) with
  | some cut => exact Or.inl ⟨cut.1, cut.2, rfl, rfl⟩
  | none =>
    right
    cases hends : received.ends with
    | true => exact Or.inl ⟨rfl, rfl, rfl⟩
    | false => exact Or.inr ⟨rfl, rfl, rfl⟩

theorem eq_append_of_receive {buffer' : Bytes} (h : readUntilDoubleCRLF buffer received = .receive buffer') :
    buffer' = buffer ++ received.bytes ∧ cutAt doubleCRLF buffer' = none := by
  rcases readUntilDoubleCRLF_cases buffer received with ⟨before, after, -, hread⟩ | ⟨-, -, hread⟩ |
    ⟨hcut, -, hread⟩
  · rw [hread] at h
    cases h
  · rw [hread] at h
    cases h
  · rw [hread] at h
    cases h
    exact ⟨rfl, hcut⟩

theorem cut_of_completion (h : readUntilDoubleCRLF buffer received = .completion read) :
    (∃ before, cutAt doubleCRLF (buffer ++ received.bytes) = some (before, read.leftover) ∧
      read.headerText = Utf8.decodeStrict before) ∨
    (cutAt doubleCRLF (buffer ++ received.bytes) = none ∧ read.headerText = none) := by
  rcases readUntilDoubleCRLF_cases buffer received with ⟨before, after, hcut, hread⟩ |
    ⟨hcut, -, hread⟩ | ⟨-, -, hread⟩
  · rw [hread] at h
    cases h
    exact Or.inl ⟨before, hcut, rfl⟩
  · rw [hread] at h
    cases h
    exact Or.inr ⟨hcut, rfl⟩
  · rw [hread] at h
    cases h

theorem bytesOf_cons (received : Received) (rest : List Received) :
    bytesOf (received :: rest) = received.bytes ++ bytesOf rest := rfl

end Callbacks

/-- Nothing is received after the completion. -/
theorem HeaderReader.eq_of_not_waiting {s s' : HeaderReader} {received : List Received}
    (hwaiting : s.waiting = false) (h : run HeaderReader.callback s received = some s') : s' = s := by
  cases received with
  | nil => exact (Option.some.inj h).symm
  | cons r received =>
    obtain ⟨s₁, hstep, -⟩ := run_cons.mp h
    rw [HeaderReader.callback, hwaiting] at hstep
    cases hstep

section Stream

variable {buffer rest : Bytes} {received : List Received}

/-- The callbacks that are made, from where the reader has got to. -/
theorem exists_read (completions : List HeaderRead) (hbuffer : cutAt doubleCRLF buffer = none)
    (hcontinues : ∀ r ∈ received.dropLast, r.ends = false)
    (hdone : doubleCRLF <:+: buffer ++ bytesOf received ∨ received.getLast?.any Received.ends = true) :
    ∃ taken rest s read, received = taken ++ rest ∧
      run HeaderReader.callback ⟨buffer, true, completions⟩ taken = some s ∧ s.waiting = false ∧
      s.completions = completions ++ [read] ∧
      (∀ before after, cutAt doubleCRLF (buffer ++ bytesOf received) = some (before, after) →
        read.headerText = Utf8.decodeStrict before ∧ read.leftover ++ bytesOf rest = after) ∧
      (cutAt doubleCRLF (buffer ++ bytesOf received) = none →
        read = ⟨none, []⟩ ∧ rest = []) := by
  induction received generalizing buffer with
  | nil =>
    exfalso
    rcases hdone with hinfix | hlast
    · rw [bytesOf, List.flatMap_nil, List.append_nil] at hinfix
      exact (cutAt_eq_none_iff (List.cons_ne_nil _ _)).mp hbuffer hinfix
    · cases hlast
  | cons r received ih =>
    have hstream : buffer ++ bytesOf (r :: received) = buffer ++ r.bytes ++ bytesOf received := by
      rw [bytesOf_cons, List.append_assoc]
    rcases readUntilDoubleCRLF_cases buffer r with ⟨before, after, hcut, hread⟩ |
      ⟨hcut, hends, hread⟩ | ⟨hcut, hends, hread⟩
    · refine ⟨[r], received, _, ⟨Utf8.decodeStrict before, after⟩, rfl,
        run_cons.mpr ⟨_, by rw [HeaderReader.callback, if_pos rfl, hread], rfl⟩, rfl, rfl, ?_, ?_⟩
      · intro before' after' hcut'
        rw [hstream, cutAt_append hcut] at hcut'
        cases hcut'
        exact ⟨rfl, rfl⟩
      · intro hnone
        rw [hstream, cutAt_append hcut] at hnone
        cases hnone
    · have hnil : received = [] := by
        cases received with
        | nil => rfl
        | cons r' received =>
          have hnot := hcontinues r List.mem_cons_self
          rw [hends] at hnot
          cases hnot
      rw [hnil] at hstream ⊢
      have hbytes : buffer ++ bytesOf [r] = buffer ++ r.bytes := hstream.trans (List.append_nil _)
      refine ⟨[r], [], _, ⟨none, []⟩, rfl,
        run_cons.mpr ⟨_, by rw [HeaderReader.callback, if_pos rfl, hread], rfl⟩, rfl, rfl, ?_, ?_⟩
      · intro before after hcut'
        rw [hbytes, hcut] at hcut'
        cases hcut'
      · intro _
        exact ⟨rfl, rfl⟩
    · have hdone' : doubleCRLF <:+: buffer ++ r.bytes ++ bytesOf received ∨
          received.getLast?.any Received.ends = true := by
        rw [← hstream]
        refine hdone.imp_right ?_
        intro hlast
        cases received with
        | nil =>
          have hends' : r.ends = true := hlast
          rw [hends] at hends'
          cases hends'
        | cons r' received => rwa [List.getLast?_cons_cons] at hlast
      have hcontinues' : ∀ r' ∈ received.dropLast, r'.ends = false := by
        intro r' hr'
        apply hcontinues
        cases received with
        | nil => cases hr'
        | cons r'' received => exact List.mem_cons_of_mem _ hr'
      obtain ⟨taken, rest, s, read, htaken, hrun, hrest⟩ := ih hcut hcontinues' hdone'
      rw [hstream]
      refine ⟨r :: taken, rest, s, read, by rw [htaken, List.cons_append], ?_, hrest⟩
      exact run_cons.mpr ⟨_, by rw [HeaderReader.callback, if_pos rfl, hread], hrun⟩

end Stream

/-- **Header reading does not depend on the chunks.**  However a stream is cut that has a blank
    line or comes to its end, the completion is called once, with the text before the first
    blank line; what it gets of the rest, and what is still to be received, is all the rest.
    It is not called again, whatever is received. -/
theorem header_read_once {stream : Bytes} {received : List Received} (h : Cut stream received)
    (hdone : doubleCRLF <:+: stream ∨ received.getLast?.any Received.ends = true) :
    ∃ taken rest s read, received = taken ++ rest ∧
      run HeaderReader.callback .start taken = some s ∧ s.waiting = false ∧ s.completions = [read] ∧
      (∀ before after, FirstAt stream before after →
        (∀ text, read.headerText = some text ↔ Utf8.encode text = before) ∧
          read.leftover ++ bytesOf rest = after) ∧
      (¬ doubleCRLF <:+: stream → read = ⟨none, []⟩ ∧ rest = []) ∧
      ∀ more s', run HeaderReader.callback s more = some s' → s'.completions = [read] := by
  have hdone' : doubleCRLF <:+: [] ++ bytesOf received ∨ received.getLast?.any Received.ends = true := by
    rwa [List.nil_append, h.bytes]
  obtain ⟨taken, rest, s, read, htaken, hrun, hwaiting, hread, hcut, hnone⟩ :=
    exists_read [] (show cutAt doubleCRLF [] = none from rfl) h.continues hdone'
  rw [List.nil_append, h.bytes] at hcut hnone
  refine ⟨taken, rest, s, read, htaken, hrun, hwaiting, hread, ?_, ?_, ?_⟩
  · intro before after hfirst
    obtain ⟨htext, hleftover⟩ := hcut before after (cutAt_doubleCRLF_iff.mpr hfirst)
    refine ⟨?_, hleftover⟩
    intro text
    rw [htext]
    exact Utf8.decodeStrict_eq_some_iff
  · intro hinfix
    exact hnone ((cutAt_eq_none_iff (List.cons_ne_nil _ _)).mpr hinfix)
  · intro more s' hmore
    rw [HeaderReader.eq_of_not_waiting hwaiting hmore]
    exact hread

/-- A header that is cut inside the blank line, in a stream that ends with its last bytes. -/
def splitHeader : List Received :=
  [⟨some (Utf8.encode "CONNECT example.com:443 HTTP/1.1\r\n\r".toList), false, false⟩,
    ⟨some (Utf8.encode "\nhello".toList), true, false⟩]

theorem header_read_once_splitHeader :
    ∃ taken rest s read, splitHeader = taken ++ rest ∧
      run HeaderReader.callback .start taken = some s ∧ s.waiting = false ∧ s.completions = [read] ∧
      (∀ before after, FirstAt (bytesOf splitHeader) before after →
        (∀ text, read.headerText = some text ↔ Utf8.encode text = before) ∧
          read.leftover ++ bytesOf rest = after) ∧
      (¬ doubleCRLF <:+: bytesOf splitHeader → read = ⟨none, []⟩ ∧ rest = []) ∧
      ∀ more s', run HeaderReader.callback s more = some s' → s'.completions = [read] :=
  header_read_once ⟨rfl, by decide⟩ (Or.inr rfl)

end DVoD.MacClient
