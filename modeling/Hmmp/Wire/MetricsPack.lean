import Mathlib.Algebra.Group.Nat.Defs
import Mathlib.Data.Rat.Defs
import Mathlib.Tactic.Common

/-!
# Metrics packs

The 32-bit word in which a service instance reports its load.
-/

namespace Hmmp
namespace Wire

/-- The components of a metrics pack; percentages are exact rationals. -/
structure Metrics where
  cpu : Nat
  cpuPercent : Rat
  memory : Nat
  memoryPercent : Rat
  activeConns : Nat
  ewmaDelay : Nat
  error : Bool
  preheating : Bool
  delayScale : Bool
  deriving DecidableEq

/-- The percentage one step of the load fields stands for. -/
def loadStep : Rat := 322 / 100

/-- The low-order bits of an integer, as a mask keeps them. -/
def lowBits (width : Nat) (value : Int) : Nat :=
  (value % (2 ^ width : Nat)).toNat

def packMetricsPack (cpu memory activeConns ewmaDelay : Int)
    (error preheating delayScale : Bool) : Nat :=
  let pack := lowBits 5 cpu
  let pack := pack ||| lowBits 5 memory <<< 5
  let pack := pack ||| lowBits 10 activeConns <<< 10
  let pack := pack ||| lowBits 9 ewmaDelay <<< 20
  let pack := if error then pack ||| 1 <<< 29 else pack
  let pack := if preheating then pack ||| 1 <<< 30 else pack
  if delayScale then pack ||| 1 <<< 31 else pack

def unpackMetricsPack (pack : Nat) : Metrics where
  cpu := pack &&& 0x1F
  cpuPercent := ((pack &&& 0x1F : Nat) : Rat) * loadStep
  memory := (pack >>> 5) &&& 0x1F
  memoryPercent := (((pack >>> 5) &&& 0x1F : Nat) : Rat) * loadStep
  activeConns := (pack >>> 10) &&& 0x3FF
  ewmaDelay := (pack >>> 20) &&& 0x1FF
  error := (pack >>> 29) &&& 1 != 0
  preheating := (pack >>> 30) &&& 1 != 0
  delayScale := (pack >>> 31) &&& 1 != 0

/-!
# Fields of a pack
-/

theorem lowBits_lt (width : Nat) (value : Int) :
    lowBits width value < 2 ^ width := by
  have hpos : (0 : Int) < (2 ^ width : Nat) :=
    Int.natCast_pos.mpr (Nat.two_pow_pos width)
  have hlt := Int.emod_lt_of_pos value hpos
  have hnonneg := Int.emod_nonneg value (Int.ne_of_gt hpos)
  unfold lowBits
  omega

theorem lowBits_of_lt {width : Nat} {value : Int} (hnonneg : 0 <= value)
    (hlt : value < (2 ^ width : Nat)) :
    (lowBits width value : Int) = value := by
  unfold lowBits
  rw [Int.emod_eq_of_lt hnonneg hlt, Int.toNat_of_nonneg hnonneg]

theorem or_shiftLeft {low width : Nat} (h : low < 2 ^ width) (high : Nat) :
    low ||| high <<< width = low + high * 2 ^ width := by
  rw [Nat.or_comm, ← Nat.shiftLeft_add_eq_or_of_lt h, Nat.shiftLeft_eq,
    Nat.add_comm]

theorem or_flag {low width : Nat} (h : low < 2 ^ width) (flag : Bool) :
    (if flag then low ||| 1 <<< width else low) =
      low + flag.toNat * 2 ^ width := by
  cases flag with
  | false => simp
  | true =>
      rw [if_pos rfl, or_shiftLeft h]
      rfl

theorem packMetricsPack_eq (cpu memory activeConns ewmaDelay : Int)
    (error preheating delayScale : Bool) :
    packMetricsPack cpu memory activeConns ewmaDelay error preheating
        delayScale =
      lowBits 5 cpu + lowBits 5 memory * 2 ^ 5 +
        lowBits 10 activeConns * 2 ^ 10 + lowBits 9 ewmaDelay * 2 ^ 20 +
          error.toNat * 2 ^ 29 + preheating.toNat * 2 ^ 30 +
            delayScale.toNat * 2 ^ 31 := by
  have hcpu := lowBits_lt 5 cpu
  have hmemory := lowBits_lt 5 memory
  have hconns := lowBits_lt 10 activeConns
  have hdelay := lowBits_lt 9 ewmaDelay
  have herror := error.toNat_lt
  have hpreheating := preheating.toNat_lt
  have hmemory_lt : lowBits 5 cpu + lowBits 5 memory * 2 ^ 5 < 2 ^ 10 := by
    omega
  have hconns_lt : lowBits 5 cpu + lowBits 5 memory * 2 ^ 5 +
      lowBits 10 activeConns * 2 ^ 10 < 2 ^ 20 := by
    omega
  unfold packMetricsPack
  simp only
  rw [or_shiftLeft hcpu, or_shiftLeft hmemory_lt, or_shiftLeft hconns_lt]
  generalize hword : lowBits 5 cpu + lowBits 5 memory * 2 ^ 5 +
    lowBits 10 activeConns * 2 ^ 10 + lowBits 9 ewmaDelay * 2 ^ 20 = word
  have hword_lt : word < 2 ^ 29 := by omega
  have herror_lt : word + error.toNat * 2 ^ 29 < 2 ^ 30 := by omega
  have hpreheating_lt : word + error.toNat * 2 ^ 29 +
      preheating.toNat * 2 ^ 30 < 2 ^ 31 := by omega
  rw [or_flag hword_lt error, or_flag herror_lt preheating,
    or_flag hpreheating_lt delayScale]

/-- Every field of a pack is read back, whatever the other fields are. -/
theorem unpackMetricsPack_pack (cpu memory activeConns ewmaDelay : Int)
    (error preheating delayScale : Bool) :
    unpackMetricsPack (packMetricsPack cpu memory activeConns ewmaDelay error
        preheating delayScale) =
      { cpu := lowBits 5 cpu
        cpuPercent := (lowBits 5 cpu : Rat) * loadStep
        memory := lowBits 5 memory
        memoryPercent := (lowBits 5 memory : Rat) * loadStep
        activeConns := lowBits 10 activeConns
        ewmaDelay := lowBits 9 ewmaDelay
        error := error
        preheating := preheating
        delayScale := delayScale } := by
  have hcpu := lowBits_lt 5 cpu
  have hmemory := lowBits_lt 5 memory
  have hconns := lowBits_lt 10 activeConns
  have hdelay := lowBits_lt 9 ewmaDelay
  have herror := error.toNat_lt
  have hpreheating := preheating.toNat_lt
  have hscale := delayScale.toNat_lt
  have hpack := packMetricsPack_eq cpu memory activeConns ewmaDelay error
    preheating delayScale
  generalize packMetricsPack cpu memory activeConns ewmaDelay error preheating
    delayScale = pack at hpack ⊢
  have hfield : forall start width, (pack >>> start) &&& (2 ^ width - 1) =
      pack / 2 ^ start % 2 ^ width := by
    intro start width
    rw [Nat.and_two_pow_sub_one_eq_mod, Nat.shiftRight_eq_div_pow]
  have hflag : forall flag : Bool, (flag.toNat != 0) = flag := by decide
  have hcpu' : pack &&& 0x1F = lowBits 5 cpu :=
    (hfield 0 5).trans (by omega)
  have hmemory' : (pack >>> 5) &&& 0x1F = lowBits 5 memory :=
    (hfield 5 5).trans (by omega)
  have hconns' : (pack >>> 10) &&& 0x3FF = lowBits 10 activeConns :=
    (hfield 10 10).trans (by omega)
  have hdelay' : (pack >>> 20) &&& 0x1FF = lowBits 9 ewmaDelay :=
    (hfield 20 9).trans (by omega)
  have herror' : (pack >>> 29) &&& 1 = error.toNat :=
    (hfield 29 1).trans (by omega)
  have hpreheating' : (pack >>> 30) &&& 1 = preheating.toNat :=
    (hfield 30 1).trans (by omega)
  have hscale' : (pack >>> 31) &&& 1 = delayScale.toNat :=
    (hfield 31 1).trans (by omega)
  unfold unpackMetricsPack
  rw [hcpu', hmemory', hconns', hdelay', herror', hpreheating', hscale',
    hflag, hflag, hflag]

end Wire
end Hmmp
