import Hmmp.Client.Redirect
import Hmmp.Models.Config
import Hmmp.Models.SnapshotReading
import Hmmp.Wire.BodyReading

/-!
# Bodies of notices

A server sends four kinds of notices: of the instances of a service, of a
changed configuration, of its own shutdown and of a redirect.  Each body is read
back from its layout.  A notice of a configuration that is cut behind its digest
is read without its canary fields; any other cut of any notice is noticed.
-/

namespace Hmmp

namespace Models

open Foundation
open Wire

/-- The notice that a server shuts down. -/
structure ShutdownNotice where
  shutdownDelayMs : Nat
  deriving DecidableEq

namespace ShutdownNotice

def read : Reading ShutdownNotice := do
  pure { shutdownDelayMs := ← BinaryReader.readU32 }

def fromBytes (data : Bytes) : Except PyError ShutdownNotice := do
  let (notice, _) ← read.run (BinaryReader.new data)
  pure notice

theorem reads (delay : UInt32) :
    Reads read (bigEndian 4 delay.toNat) { shutdownDelayMs := delay.toNat } :=
  (Reads.u32 delay).map ShutdownNotice.mk

end ShutdownNotice

/-!
# Redirects
-/

/-- The values that a redirect carries. -/
structure RedirectBody where
  sequenceNumber : UInt32
  reason : UInt8
  gracefulWaitMs : UInt16
  targetIpType : IpType
  targetPort : UInt16
  targetIp : Bytes
  targetIp_length : targetIp.length = targetIpType.width

namespace RedirectBody

def layout (b : RedirectBody) : Bytes :=
  bigEndian 4 b.sequenceNumber.toNat ++ (bigEndian 1 b.reason.toNat ++
    (bigEndian 2 b.gracefulWaitMs.toNat ++ (bigEndian 1 b.targetIpType.code ++
      (bigEndian 2 b.targetPort.toNat ++ b.targetIp))))

def redirect (lib : IpLib) (b : RedirectBody) : RedirectInfo where
  sequenceNumber := b.sequenceNumber.toNat
  reason := b.reason.toNat
  gracefulWaitMs := b.gracefulWaitMs.toNat
  targetIp := bytesToIp lib b.targetIp b.targetIpType
  targetPort := b.targetPort.toNat

theorem reads (lib : IpLib) (b : RedirectBody) :
    Reads (RedirectInfo.read lib) b.layout (b.redirect lib) := by
  have hip : Reads (BinaryReader.readBytes b.targetIpType.width) b.targetIp
      b.targetIp := by
    rw [← b.targetIp_length]
    exact Reads.bytes b.targetIp
  have hredirect := hip.map fun targetIpBytes =>
    ({ sequenceNumber := b.sequenceNumber.toNat
       reason := b.reason.toNat
       gracefulWaitMs := b.gracefulWaitMs.toNat
       targetIp := bytesToIp lib targetIpBytes b.targetIpType
       targetPort := b.targetPort.toNat } : RedirectInfo)
  exact (Reads.u32 b.sequenceNumber).bind ((Reads.u8 b.reason).bind
    ((Reads.u16 b.gracefulWaitMs).bind (Reads.ipType b.targetIpType
      ((Reads.u16 b.targetPort).bind hredirect))))

end RedirectBody

/-!
# Changed configurations
-/

/-- What may stand behind the digest. -/
inductive CanaryNotice where
  | absent
  | other (flag : UInt8) (ne : flag ≠ 1)
  | canary (versionId : SizedText 2) (changedReason : UInt8)

/-- The values that a notice of a configuration always carries. -/
structure ConfigNotice where
  tenant : SizedText 2
  group : SizedText 2
  dataId : SizedText 2
  newMd5 : Bytes
  newMd5_length : newMd5.length = 16

namespace CanaryNotice

def layout : CanaryNotice -> Bytes
  | absent => []
  | other flag _ => bigEndian 1 flag.toNat
  | canary versionId changedReason =>
      bigEndian 1 1 ++ (versionId.layout ++ bigEndian 1 changedReason.toNat)

def assign (notification : ConfigChangedNotification) :
    CanaryNotice -> ConfigChangedNotification
  | canary versionId changedReason =>
      { notification with
        versionId := versionId.text
        changedReason := changedReason.toNat }
  | _ => notification

end CanaryNotice

namespace ConfigNotice

def layout (n : ConfigNotice) : Bytes :=
  n.tenant.layout ++ (n.group.layout ++ (n.dataId.layout ++ n.newMd5))

def notification (n : ConfigNotice) : ConfigChangedNotification where
  tenant := n.tenant.text
  group := n.group.text
  dataId := n.dataId.text
  newMd5 := n.newMd5

end ConfigNotice

namespace ConfigChangedNotification

def readHead : Reading ConfigChangedNotification := do
  let tenant ← BinaryReader.readStringU16
  let group ← BinaryReader.readStringU16
  let dataId ← BinaryReader.readStringU16
  let newMd5 ← BinaryReader.readBytes 16
  pure
    { tenant := tenant
      group := group
      dataId := dataId
      newMd5 := newMd5 }

def readFlagged (notification : ConfigChangedNotification)
    (hasCanary : Nat) : Reading ConfigChangedNotification :=
  if hasCanary = 1 then do
    let versionId ← BinaryReader.readStringU16
    let changedReason ← BinaryReader.readU8
    pure
      { notification with
        versionId := versionId
        changedReason := changedReason }
  else pure notification

/-- Read the canary fields where some bytes remain. -/
def readCanary (notification : ConfigChangedNotification) :
    Reading ConfigChangedNotification := do
  readFlagged notification (← BinaryReader.readU8)

theorem read_eq : read = withOptional readHead readCanary := by
  unfold read withOptional readHead ifRemaining readCanary readFlagged
  simp only [bind_assoc, pure_bind]

theorem fromBytes_eq :
    fromBytes = parseBody (withOptional readHead readCanary) := by
  rw [← read_eq]
  rfl

theorem reads_head (n : ConfigNotice) :
    Reads readHead n.layout n.notification := by
  have hmd5 : Reads (BinaryReader.readBytes 16) n.newMd5 n.newMd5 := by
    rw [← n.newMd5_length]
    exact Reads.bytes n.newMd5
  have hnotification := hmd5.map fun newMd5 =>
    ({ tenant := n.tenant.text
       group := n.group.text
       dataId := n.dataId.text
       newMd5 := newMd5 } : ConfigChangedNotification)
  exact (Reads.stringU16 n.tenant).bind ((Reads.stringU16 n.group).bind
    ((Reads.stringU16 n.dataId).bind hnotification))

theorem reads_canary (notification : ConfigChangedNotification)
    {c : CanaryNotice} (hc : c.layout ≠ []) :
    Reads (readCanary notification) c.layout (c.assign notification) := by
  cases c with
  | absent => exact absurd rfl hc
  | other flag ne =>
      have hflag : flag.toNat ≠ 1 := by
        intro hone
        exact ne (UInt8.toNat_inj.mp hone)
      have hrest : Reads (readFlagged notification flag.toNat) []
          notification := by
        unfold readFlagged
        rw [if_neg hflag]
        exact Reads.nothing notification
      have hboth := (Reads.u8 flag).bind hrest
      rw [List.append_nil] at hboth
      exact hboth
  | canary versionId changedReason =>
      have hreason := (Reads.u8 changedReason).map fun changedReason =>
        ({ notification with
            versionId := versionId.text
            changedReason := changedReason } : ConfigChangedNotification)
      exact (Reads.u8 1).bind ((Reads.stringU16 versionId).bind hreason)

theorem fromBytes_layout (n : ConfigNotice) (c : CanaryNotice) :
    fromBytes (n.layout ++ c.layout) =
      Except.ok (c.assign n.notification) := by
  rw [fromBytes_eq]
  by_cases hc : c.layout = []
  · rw [hc, List.append_nil]
    cases c with
    | absent => exact withOptional_head (reads_head n)
    | other flag ne => cases hc
    | canary versionId changedReason => cases hc
  · have hblock := withOptional_block (reads_head n)
      (reads_canary n.notification hc) hc []
    rw [List.append_nil] at hblock
    exact hblock

theorem fromBytes_head (n : ConfigNotice) :
    fromBytes n.layout = Except.ok n.notification := by
  rw [fromBytes_eq]
  exact withOptional_head (reads_head n)

theorem fromBytes_cut (n : ConfigNotice) (c : CanaryNotice) {k : Nat}
    (hk : k < (n.layout ++ c.layout).length) (hne : k ≠ n.layout.length) :
    EndsEarly fromBytes ((n.layout ++ c.layout).take k) := by
  rw [fromBytes_eq]
  by_cases hc : c.layout = []
  · -- Without canary fields the cut is one of the head.
    exact withOptional_cut (reads_head n) (Or.inl hc) hk hne
      (b := n.notification)
  · exact withOptional_cut (reads_head n)
      (Or.inr (reads_canary n.notification hc)) hk hne

end ConfigChangedNotification

/-- Every notice is read back from its layout.  A notice of a shutdown or of a
redirect is read whatever follows it and raises wherever it is cut; a notice of
a configuration raises wherever it is cut but behind its digest, where it is
read without the canary fields. -/
theorem notices_readBack (lib : IpLib) :
    ReadsBack ShutdownNotice.fromBytes
        (fun delay : UInt32 => bigEndian 4 delay.toNat)
        (fun delay => { shutdownDelayMs := delay.toNat }) ∧
      ReadsBack (RedirectInfo.fromBytes lib) RedirectBody.layout
        (RedirectBody.redirect lib) ∧
      forall (n : ConfigNotice) (c : CanaryNotice),
        ConfigChangedNotification.fromBytes (n.layout ++ c.layout) =
            Except.ok (c.assign n.notification) ∧
          forall k, k < (n.layout ++ c.layout).length ->
            (k = n.layout.length ->
              ConfigChangedNotification.fromBytes
                ((n.layout ++ c.layout).take k) =
                  Except.ok n.notification) ∧
            (k ≠ n.layout.length ->
              EndsEarly ConfigChangedNotification.fromBytes
                ((n.layout ++ c.layout).take k)) := by
  refine ⟨ReadsBack.of_reads ShutdownNotice.reads,
    ReadsBack.of_reads (RedirectBody.reads lib), fun n c => ⟨?_, fun k hk => ?_⟩⟩
  · exact ConfigChangedNotification.fromBytes_layout n c
  · constructor
    · rintro rfl
      rw [List.take_left' rfl]
      exact ConfigChangedNotification.fromBytes_head n
    · intro hne
      exact ConfigChangedNotification.fromBytes_cut n c hk hne

end Models
end Hmmp
