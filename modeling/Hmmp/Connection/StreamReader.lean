import Hmmp.Foundation.Codec

/-!
# Byte stream reader

A stream that delivers its bytes in chunks of any size and then ends, and the
read of an exact number of bytes from it.  A read waits for further chunks
until it has enough bytes, the stream ends, or the time of the read runs out.
-/

namespace Hmmp
namespace Connection

open Foundation

/-- What arrives on a stream while a read waits. -/
inductive Arrival where
  | data (chunk : Bytes)
  | timeout
  deriving DecidableEq

/-- The bytes received and not yet read, and what is still to arrive before the
end of the stream. -/
structure StreamReader where
  buffer : Bytes
  arriving : List Arrival
  deriving DecidableEq

/-- The outcome of a read of an exact number of bytes. -/
inductive ReadResult where
  | bytes (read : Bytes) (reader : StreamReader)
  | incomplete
  | timedOut (reader : StreamReader)

namespace StreamReader

/-- Read exactly {lit}`n` bytes with {lit}`buffer` received so far. -/
def readFrom (n : Nat) (buffer : Bytes) : List Arrival -> ReadResult
  | [] =>
      if n <= buffer.length then
        ReadResult.bytes (buffer.take n)
          { buffer := buffer.drop n, arriving := [] }
      else ReadResult.incomplete
  | Arrival.data chunk :: arriving =>
      if n <= buffer.length then
        ReadResult.bytes (buffer.take n)
          { buffer := buffer.drop n
            arriving := Arrival.data chunk :: arriving }
      else readFrom n (buffer ++ chunk) arriving
  | Arrival.timeout :: arriving =>
      if n <= buffer.length then
        ReadResult.bytes (buffer.take n)
          { buffer := buffer.drop n, arriving := Arrival.timeout :: arriving }
      else ReadResult.timedOut { buffer := buffer, arriving := arriving }

def readexactly (r : StreamReader) (n : Nat) : ReadResult :=
  readFrom n r.buffer r.arriving

/-- The bytes that arrive, timeouts left out. -/
def dataOf : List Arrival -> Bytes
  | [] => []
  | Arrival.data chunk :: arriving => chunk ++ dataOf arriving
  | Arrival.timeout :: arriving => dataOf arriving

/-- Every byte the reader has or will receive. -/
def pending (r : StreamReader) : Bytes :=
  r.buffer ++ dataOf r.arriving

/-- The reader receives {lit}`bs`, in whatever chunks, without a read running
out of time. -/
def Carries (r : StreamReader) (bs : Bytes) : Prop :=
  r.pending = bs ∧ Arrival.timeout ∉ r.arriving

theorem readFrom_bytes {n : Nat} {buffer read : Bytes}
    {arriving : List Arrival} {r : StreamReader}
    (h : readFrom n buffer arriving = ReadResult.bytes read r) :
    read.length = n ∧ buffer ++ dataOf arriving = read ++ r.pending ∧
      forall a, a ∈ r.arriving -> a ∈ arriving := by
  have htake : forall {buffer : Bytes}, n <= buffer.length ->
      (buffer.take n).length = n := by
    intro buffer hn
    rw [List.length_take, Nat.min_eq_left hn]
  induction arriving generalizing buffer with
  | nil =>
      by_cases hn : n <= buffer.length
      · simp only [readFrom, if_pos hn, ReadResult.bytes.injEq] at h
        rcases h with ⟨rfl, rfl⟩
        refine ⟨htake hn, ?_, fun a ha => ha⟩
        simp [pending, ← List.append_assoc, List.take_append_drop]
      · simp [readFrom, if_neg hn] at h
  | cons arrival arriving ih =>
      by_cases hn : n <= buffer.length
      · have hread : read = buffer.take n ∧
            r = { buffer := buffer.drop n
                  arriving := arrival :: arriving } := by
          cases arrival <;>
            simp only [readFrom, if_pos hn, ReadResult.bytes.injEq] at h <;>
            exact ⟨h.1.symm, h.2.symm⟩
        rcases hread with ⟨rfl, rfl⟩
        refine ⟨htake hn, ?_, fun a ha => ha⟩
        simp [pending, ← List.append_assoc, List.take_append_drop]
      · cases arrival with
        | data chunk =>
            simp only [readFrom, if_neg hn] at h
            rcases ih h with ⟨hlen, hpending, hmem⟩
            refine ⟨hlen, ?_, fun a ha => List.mem_cons_of_mem _ (hmem a ha)⟩
            rw [← hpending, dataOf, List.append_assoc]
        | timeout => simp [readFrom, if_neg hn] at h

theorem readFrom_enough {n : Nat} {buffer : Bytes} {arriving : List Arrival}
    (hdata : Arrival.timeout ∉ arriving)
    (hlen : n <= (buffer ++ dataOf arriving).length) :
    exists r, readFrom n buffer arriving =
      ReadResult.bytes ((buffer ++ dataOf arriving).take n) r := by
  have htake : forall {buffer tail : Bytes}, n <= buffer.length ->
      (buffer ++ tail).take n = buffer.take n := by
    intro buffer tail hn
    exact List.take_append_of_le_length hn
  induction arriving generalizing buffer with
  | nil =>
      rw [dataOf, List.append_nil] at hlen ⊢
      exact ⟨_, by rw [readFrom, if_pos hlen]⟩
  | cons arrival arriving ih =>
      cases arrival with
      | data chunk =>
          by_cases hn : n <= buffer.length
          · exact ⟨_, by rw [readFrom, if_pos hn, htake hn]⟩
          · rw [dataOf, ← List.append_assoc] at hlen ⊢
            rw [readFrom, if_neg hn]
            exact ih (fun ha => hdata (List.mem_cons_of_mem _ ha)) hlen
      | timeout => exact absurd List.mem_cons_self hdata

theorem readFrom_short {n : Nat} {buffer : Bytes} {arriving : List Arrival}
    (hdata : Arrival.timeout ∉ arriving)
    (hlen : (buffer ++ dataOf arriving).length < n) :
    readFrom n buffer arriving = ReadResult.incomplete := by
  induction arriving generalizing buffer with
  | nil =>
      rw [dataOf, List.append_nil] at hlen
      rw [readFrom, if_neg (by omega)]
  | cons arrival arriving ih =>
      cases arrival with
      | data chunk =>
          have hn : ¬ n <= buffer.length := by
            rw [List.length_append] at hlen
            omega
          rw [dataOf, ← List.append_assoc] at hlen
          rw [readFrom, if_neg hn]
          exact ih (fun ha => hdata (List.mem_cons_of_mem _ ha)) hlen
      | timeout => exact absurd List.mem_cons_self hdata

/-- However the stream is cut into chunks, a read returns its front. -/
theorem readexactly_append {r : StreamReader} {front rest : Bytes}
    (h : r.Carries (front ++ rest)) :
    exists r', r.readexactly front.length = ReadResult.bytes front r' ∧
      r'.Carries rest := by
  rcases h with ⟨hpending, hdata⟩
  have hlen : front.length <= r.pending.length := by
    rw [hpending, List.length_append]
    omega
  rcases readFrom_enough hdata hlen with ⟨r', hread⟩
  have hfront : (r.buffer ++ dataOf r.arriving).take front.length = front := by
    show r.pending.take front.length = front
    rw [hpending, List.take_left]
  rw [hfront] at hread
  rcases readFrom_bytes hread with ⟨_, happend, hmem⟩
  refine ⟨r', hread, ?_, fun ha => hdata (hmem _ ha)⟩
  have heq : front ++ r'.pending = front ++ rest :=
    happend.symm.trans hpending
  exact List.append_cancel_left heq

theorem readexactly_short {r : StreamReader} {bs : Bytes} {n : Nat}
    (h : r.Carries bs) (hlen : bs.length < n) :
    r.readexactly n = ReadResult.incomplete := by
  rcases h with ⟨hpending, hdata⟩
  apply readFrom_short hdata
  show r.pending.length < n
  rw [hpending]
  exact hlen

end StreamReader

end Connection
end Hmmp
