/-
Module: Mp257Fsbl.Rcc.Pll
Purpose: The bring-up of PLL1 and PLL2 as drivers of the clock registers.
Trusted boundary: human-reviewed model of rcc_pll2_init and rcc_a35_pll1_init;
  control bits read back as written, status bits are inputs
Main exports: Word, returned, ClockRegs, clockDevice, Pll2Env, rccPll2Init, Pll1Env,
  rccA35Pll1Init
-/
import Mp257Fsbl.Foundation.Driver

namespace Mp257Fsbl.Rcc

open Mp257Fsbl.Foundation

abbrev Word := BitVec 32

/-! ### Registers -/

def rccBase : Nat := 0x44200000
def rccOcensetr : Nat := rccBase + 0x49C
def rccOcrdyr : Nat := rccBase + 0x4A4
def rccPll2cfgr1 : Nat := rccBase + 0x590
def rccPll2cfgr2 : Nat := rccBase + 0x594
def rccPll2cfgr3 : Nat := rccBase + 0x598
def rccPll2cfgr4 : Nat := rccBase + 0x59C
def rccPll2cfgr6 : Nat := rccBase + 0x5A8
def rccPll2cfgr7 : Nat := rccBase + 0x5AC
def rccMuxselcfgr : Nat := rccBase + 0x1000

def a35sscBase : Nat := 0x48800000
def a35SsChgclkreq : Nat := a35sscBase + 0x00
def a35SsPllFreq1 : Nat := a35sscBase + 0x80
def a35SsPllFreq2 : Nat := a35sscBase + 0x90
def a35SsPllEnable : Nat := a35sscBase + 0xA0

def ocenHseon : Word := 0x100
def ocrdyHserdy : Word := 0x100

def pllCfgr1Ssmodrst : Word := 0x1
def pllCfgr1Pllen : Word := 0x100
def pllCfgr1Pllrdy : Word := 0x1000000
def pllCfgr1Ckrefst : Word := 0x10000000
def pllCfgr2FrefdivMask : Word := 0x3F
def pllCfgr2FbdivMask : Word := 0x0FFF0000
def pllCfgr3FracinMask : Word := 0x00FFFFFF
def pllCfgr3Dacen : Word := 0x2000000
def pllCfgr3Sscgdis : Word := 0x4000000
def pllCfgr4Dsmen : Word := 0x100
def pllCfgr4Foutpostdiven : Word := 0x200
def pllCfgr4Bypass : Word := 0x400
def pllCfgr6Postdiv1Mask : Word := 0x7
def pllCfgr7Postdiv2Mask : Word := 0x7

def muxsel5Mask : Word := 0x00300000
def muxsel6Mask : Word := 0x03000000
def muxselHse : Word := 1

def a35ChgclkreqReq : Word := 0x1
def a35ChgclkreqAck : Word := 0x2
def a35ChgclkreqDivsel : Word := 0x10000
def a35ChgclkreqDivselack : Word := 0x20000

def a35PllEnablePd : Word := 0x1
def a35PllEnableLockp : Word := 0x2
def a35PllEnableNresetSwpllFf : Word := 0x4

def a35PllFreq1FbdivMask : Word := 0xFFF
def a35PllFreq1RefdivMask : Word := 0x3F0000
def a35PllFreq2Postdiv1Mask : Word := 0x7
def a35PllFreq2Postdiv2Mask : Word := 0x38

def a35PllFbdiv : Word := 30
def a35PllRefdiv : Word := 1
def a35PllPostdiv1 : Word := 1
def a35PllPostdiv2 : Word := 1

def pll2Fbdiv : Word := 30
def pll2Frefdiv : Word := 1
def pll2Postdiv1 : Word := 1
def pll2Postdiv2 : Word := 2

def divTimeout : Nat := 1000000

/-- The value a driver's caller gets. -/
def returned : Except Int Unit → Int
  | .ok () => 0
  | .error code => code

/-- The bits of each register that report the state of the hardware. -/
def statusBits (addr : Nat) : Word :=
  if addr = rccOcrdyr then 0xFFFFFFFF
  else if addr = rccPll2cfgr1 then pllCfgr1Pllrdy ||| pllCfgr1Ckrefst
  else if addr = a35SsChgclkreq then a35ChgclkreqAck ||| a35ChgclkreqDivselack
  else if addr = a35SsPllEnable then a35PllEnableLockp
  else 0

/-- What was last written to each register. -/
abbrev ClockRegs := Nat → Word

/-- Status bits are whatever the environment says, the others read back. -/
def clockDevice : Device Nat Word Word ClockRegs where
  read addr status regs :=
    ((regs addr &&& ~~~statusBits addr) ||| (status &&& statusBits addr), regs)
  write addr val regs := fun other => if other = addr then val else regs other

section

variable {ξ σ : Type} (dev : Device Nat Word ξ σ)

def mmioSetbits32 (addr : Nat) (set : Word) (env : ξ) : Driver Nat Word σ Int Unit :=
  mmioModify dev addr (fun val => val ||| set) env

def mmioClrbits32 (addr : Nat) (clr : Word) (env : ξ) : Driver Nat Word σ Int Unit :=
  mmioModify dev addr (fun val => val &&& ~~~clr) env

def mmioClrsetbits32 (addr : Nat) (clr set : Word) (env : ξ) : Driver Nat Word σ Int Unit :=
  mmioModify dev addr (fun val => (val &&& ~~~clr) ||| set) env

/-! ### PLL2 -/

/-- What the environment does: up to the reads of each wait, and up to the reads
of the read-modify-writes, which are numbered. -/
structure Pll2Env (ξ : Type) where
  hse : Nat → ξ
  stop : Nat → ξ
  source : Nat → ξ
  lock : Nat → ξ
  update : Nat → ξ

def rccPll2Init (env : Pll2Env ξ) : Driver Nat Word σ Int Unit := do
  mmioSetbits32 dev rccOcensetr ocenHseon (env.update 0)
  waitFor dev rccOcrdyr (fun v => v &&& ocrdyHserdy ≠ 0) env.hse divTimeout (-1)
  mmioClrbits32 dev rccPll2cfgr1 pllCfgr1Pllen (env.update 1)
  waitFor dev rccPll2cfgr1 (fun v => v &&& pllCfgr1Pllrdy = 0) env.stop divTimeout (-2)
  mmioClrsetbits32 dev rccMuxselcfgr muxsel6Mask (muxselHse <<< 24) (env.update 2)
  waitFor dev rccPll2cfgr1 (fun v => v &&& pllCfgr1Ckrefst ≠ 0) env.source divTimeout (-3)
  mmioClrbits32 dev rccPll2cfgr3 pllCfgr3FracinMask (env.update 3)
  mmioClrbits32 dev rccPll2cfgr4 pllCfgr4Dsmen (env.update 4)
  mmioClrbits32 dev rccPll2cfgr3 pllCfgr3Dacen (env.update 5)
  mmioSetbits32 dev rccPll2cfgr3 pllCfgr3Sscgdis (env.update 6)
  mmioSetbits32 dev rccPll2cfgr1 pllCfgr1Ssmodrst (env.update 7)
  mmioClrsetbits32 dev rccPll2cfgr2 pllCfgr2FbdivMask (pll2Fbdiv <<< 16) (env.update 8)
  mmioClrsetbits32 dev rccPll2cfgr2 pllCfgr2FrefdivMask pll2Frefdiv (env.update 9)
  mmioClrsetbits32 dev rccPll2cfgr6 pllCfgr6Postdiv1Mask pll2Postdiv1 (env.update 10)
  mmioClrsetbits32 dev rccPll2cfgr7 pllCfgr7Postdiv2Mask pll2Postdiv2 (env.update 11)
  mmioClrbits32 dev rccPll2cfgr4 pllCfgr4Bypass (env.update 12)
  mmioSetbits32 dev rccPll2cfgr4 pllCfgr4Foutpostdiven (env.update 13)
  mmioSetbits32 dev rccPll2cfgr1 pllCfgr1Pllen (env.update 14)
  waitFor dev rccPll2cfgr1 (fun v => v &&& pllCfgr1Pllrdy ≠ 0) env.lock divTimeout (-4)

/-! ### PLL1 -/

structure Pll1Env (ξ : Type) where
  hse : Nat → ξ
  /-- The two checks before the switch to the bypass clock. -/
  parked : ξ
  divsel : ξ
  divselack : Nat → ξ
  ack : Nat → ξ
  unlock : Nat → ξ
  lock : Nat → ξ
  release : Nat → ξ
  update : Nat → ξ

/-- The divider select is withdrawn, where it is set. -/
def a35ClearDivsel (env : Pll1Env ξ) : Driver Nat Word σ Int Unit := do
  let req ← mmioRead dev a35SsChgclkreq env.divsel
  if req &&& a35ChgclkreqDivsel ≠ 0 then
    mmioClrbits32 dev a35SsChgclkreq a35ChgclkreqDivsel (env.update 1)
    waitFor dev a35SsChgclkreq (fun v => v &&& a35ChgclkreqDivselack = 0) env.divselack
      divTimeout (-2)

/-- The cluster is switched to the bypass clock, unless it is there. -/
def a35Bypass (env : Pll1Env ξ) : Driver Nat Word σ Int Unit := do
  let req ← mmioRead dev a35SsChgclkreq env.parked
  if req &&& a35ChgclkreqAck = 0 then
    a35ClearDivsel dev env
    mmioSetbits32 dev a35SsChgclkreq a35ChgclkreqReq (env.update 2)
    waitFor dev a35SsChgclkreq (fun v => v &&& a35ChgclkreqAck ≠ 0) env.ack divTimeout (-3)

def rccA35Pll1Init (env : Pll1Env ξ) : Driver Nat Word σ Int Unit := do
  mmioSetbits32 dev rccOcensetr ocenHseon (env.update 0)
  waitFor dev rccOcrdyr (fun v => v &&& ocrdyHserdy ≠ 0) env.hse divTimeout (-1)
  a35Bypass dev env
  mmioClrbits32 dev a35SsPllEnable a35PllEnableNresetSwpllFf (env.update 3)
  mmioClrbits32 dev a35SsPllEnable a35PllEnablePd (env.update 4)
  waitFor dev a35SsPllEnable (fun v => v &&& a35PllEnableLockp = 0) env.unlock divTimeout (-6)
  mmioClrsetbits32 dev rccMuxselcfgr muxsel5Mask (muxselHse <<< 20) (env.update 5)
  mmioClrsetbits32 dev a35SsPllFreq1 a35PllFreq1RefdivMask
    ((a35PllRefdiv <<< 16) &&& a35PllFreq1RefdivMask) (env.update 6)
  mmioClrsetbits32 dev a35SsPllFreq1 a35PllFreq1FbdivMask
    (a35PllFbdiv &&& a35PllFreq1FbdivMask) (env.update 7)
  mmioClrsetbits32 dev a35SsPllFreq2 a35PllFreq2Postdiv1Mask a35PllPostdiv1 (env.update 8)
  mmioClrsetbits32 dev a35SsPllFreq2 a35PllFreq2Postdiv2Mask
    ((a35PllPostdiv2 <<< 3) &&& a35PllFreq2Postdiv2Mask) (env.update 9)
  mmioSetbits32 dev a35SsPllEnable a35PllEnablePd (env.update 10)
  waitFor dev a35SsPllEnable (fun v => v &&& a35PllEnableLockp ≠ 0) env.lock divTimeout (-4)
  mmioSetbits32 dev a35SsPllEnable a35PllEnableNresetSwpllFf (env.update 11)
  mmioClrbits32 dev a35SsChgclkreq a35ChgclkreqReq (env.update 12)
  waitFor dev a35SsChgclkreq (fun v => v &&& a35ChgclkreqAck = 0) env.release divTimeout (-5)

end

end Mp257Fsbl.Rcc
