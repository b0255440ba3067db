/-
HrServer.Hook.Nonblock — three views of one flag.

The kernel's `O_NONBLOCK` of a hooked socket is to stay set, so that the
raw call of `do_io` returns `EAGAIN` instead of blocking the worker.
`m_sysNonblock` remembers that the hook has set it, `m_userNonblock` what
the user asked for. `fcntl(F_SETFL)` and `fcntl(F_GETFL)` translate
between the two; `ioctl(FIONBIO)` notes the request and passes it on as it
is, so that a value of 0 makes the socket block
(`blocking_after_ioctl`). `nonblocking_iff` says that this is the only
way.

The file status flags are the kernel's. Which of them `F_SETFL` can change
is `settable`; whether it accepts the user's flags is an argument.
-/
import HrServer.Hook.Core
import Mathlib.Algebra.Order.Ring.Nat

namespace HrServer

open Lib

namespace Hook

/-! ## Masks -/

section masks

variable {w : Nat} (x a m n : BitVec w)

theorem or_and_mask : (x ||| n) &&& n = n := by
  ext i hi
  cases hn : n[i] <;> simp [hn]

theorem and_not_and_mask : x &&& ~~~n &&& n = 0 := by
  ext i hi
  simp

theorem or_and_not_mask : (x ||| n) &&& ~~~n = x &&& ~~~n := by
  ext i hi
  cases hn : n[i] <;> simp [hn]

theorem and_not_and_not_mask : x &&& ~~~n &&& ~~~n = x &&& ~~~n := by
  rw [BitVec.and_assoc, BitVec.and_self]

/-- Writing `a` with the bits of `n` through the mask `m` sets these bits. -/
theorem write_and_mask (h : m &&& n = n) : ((x &&& ~~~m) ||| ((a ||| n) &&& m)) &&& n = n := by
  ext i hi
  have hbit : (m[i] && n[i]) = n[i] := by
    rw [← BitVec.getElem_and, h]
  cases hn : n[i] <;> simp_all

/-- The other bits are those of `a`, as far as the mask goes. -/
theorem write_and_not_mask : ((x &&& ~~~m) ||| ((a ||| n) &&& m)) &&& ~~~n
    = (x &&& ~~~n &&& ~~~m) ||| (a &&& m &&& ~~~n) := by
  ext i hi
  cases hn : n[i] <;> simp [hn]

end masks

/-! ## The kernel -/

/-- The file status flags, an `int`. -/
abbrev Flags := BitVec 32

def O_NONBLOCK : Flags := 0x800

/-- The flags that `F_SETFL` can change: `O_APPEND`, `O_NONBLOCK`, `O_ASYNC`, `O_DIRECT` and
`O_NOATIME`. -/
def settable : Flags := 0x400 ||| 0x800 ||| 0x2000 ||| 0x4000 ||| 0x40000

/-- An open file with its `FdCtx`; `sysNonblock` is the member that only `fcntl` reads. -/
structure File where
  flags : Flags
  ctx : FdCtx
  sysNonblock : Bool
  deriving DecidableEq

/-- `fcntl_f(fd, F_SETFL, arg)`. -/
def File.setfl (file : File) (arg : Flags) (ok : Bool) : File :=
  if ok then { file with flags := (file.flags &&& ~~~settable) ||| (arg &&& settable) } else file

/-- `ioctl_f(fd, FIONBIO, &v)`. -/
def File.fionbio (file : File) (v : BitVec 32) : File :=
  { file with flags := if v ≠ 0 then file.flags ||| O_NONBLOCK else file.flags &&& ~~~O_NONBLOCK }

/-! ## The hooks -/

/-- `FdCtx::init` for a socket with the flags `flags`. The `F_SETFL` changes no flag but
`O_NONBLOCK`, which the kernel does not refuse. -/
def initSocket (flags : Flags) : File :=
  let file : File := ⟨flags, .init true, true⟩
  if flags &&& O_NONBLOCK = 0 then file.setfl (flags ||| O_NONBLOCK) true else file

/-- The test `!ctx || ctx->isClose() || !ctx->isSocket()` of the hooks. -/
def File.unhooked (file : File) : Bool := file.ctx.isClosed || !file.ctx.isSocket

/-- `fcntl(fd, F_SETFL, arg)`. -/
def File.fcntlSetfl (file : File) (arg : Flags) (ok : Bool) : File :=
  if file.unhooked then file.setfl arg ok
  else
    let file := { file with ctx := file.ctx.setUserNonblock (arg &&& O_NONBLOCK ≠ 0) }
    let arg := if file.sysNonblock then arg ||| O_NONBLOCK else arg &&& ~~~O_NONBLOCK
    file.setfl arg ok

/-- The result of `fcntl(fd, F_GETFL)`. -/
def File.fcntlGetfl (file : File) : Flags :=
  let arg := file.flags
  if file.unhooked then arg
  else if file.ctx.userNonblock then arg ||| O_NONBLOCK else arg &&& ~~~O_NONBLOCK

/-- `ioctl(fd, FIONBIO, &v)`. -/
def File.ioctlFionbio (file : File) (v : BitVec 32) : File :=
  if file.unhooked then file.fionbio v
  else { file with ctx := file.ctx.setUserNonblock (v ≠ 0) }.fionbio v

inductive ModeCall where
  /-- `fcntl(F_SETFL, arg)`; `ok` says whether the kernel accepts the flags. -/
  | setfl (arg : Flags) (ok : Bool)
  | getfl
  | fionbio (v : BitVec 32)
  deriving DecidableEq

def File.call (file : File) : ModeCall → File
  | .setfl arg ok => file.fcntlSetfl arg ok
  | .getfl => file
  | .fionbio v => file.ioctlFionbio v

/-! ## What the user asked for -/

/-- The mode that was last requested, and the other flags as they were last set. -/
structure Wanted where
  nonblock : Bool
  others : Flags
  deriving DecidableEq

/-- Nothing was requested of a new socket. -/
def Wanted.init (flags : Flags) : Wanted := ⟨false, flags &&& ~~~O_NONBLOCK⟩

def Wanted.call (wanted : Wanted) : ModeCall → Wanted
  | .setfl arg ok =>
    { nonblock := arg &&& O_NONBLOCK ≠ 0
      others :=
        if ok then (wanted.others &&& ~~~settable) ||| (arg &&& settable &&& ~~~O_NONBLOCK)
        else wanted.others }
  | .getfl => wanted
  | .fionbio v => { wanted with nonblock := v ≠ 0 }

/-- The socket does not block, and `F_GETFL` reports what the user asked for. -/
structure InMode (file : File) (wanted : Wanted) : Prop where
  kernel : file.flags &&& O_NONBLOCK = O_NONBLOCK
  nonblock : file.fcntlGetfl &&& O_NONBLOCK = if wanted.nonblock then O_NONBLOCK else 0
  others : file.fcntlGetfl &&& ~~~O_NONBLOCK = wanted.others

/-! ## Sequences of calls -/

/-- What every call keeps: the hooks are on, and note what the user asks for. -/
structure Noted (file : File) (wanted : Wanted) : Prop where
  hooked : file.unhooked = false
  sys : file.sysNonblock = true
  user : file.ctx.userNonblock = wanted.nonblock
  others : file.flags &&& ~~~O_NONBLOCK = wanted.others

theorem noted_init (flags : Flags) : Noted (initSocket flags) (.init flags) := by
  unfold initSocket
  split
  · refine ⟨rfl, rfl, rfl, ?_⟩
    simp only [File.setfl, if_true, Wanted.init]
    rw [write_and_not_mask]
    ext i hi
    cases hm : settable[i] <;> simp [hm]
  · exact ⟨rfl, rfl, rfl, rfl⟩

/-- `O_NONBLOCK` is one bit. -/
theorem and_nonblock (flags : Flags) :
    flags &&& O_NONBLOCK = 0 ∨ flags &&& O_NONBLOCK = O_NONBLOCK := by
  have hbit : O_NONBLOCK = BitVec.twoPow 32 11 := by decide
  rw [hbit, BitVec.and_twoPow]
  split
  · exact .inr rfl
  · exact .inl rfl

theorem kernel_init (flags : Flags) : (initSocket flags).flags &&& O_NONBLOCK = O_NONBLOCK := by
  unfold initSocket
  split
  · exact write_and_mask _ _ _ _ (by decide)
  · next h => exact (and_nonblock flags).resolve_left h

theorem setUserNonblock_hooked {file : File} (h : file.unhooked = false) (v : Bool) :
    file.ctx.setUserNonblock v = { file.ctx with userNonblock := v } :=
  if_neg (by simpa [File.unhooked] using h)

/-- `fcntl(F_SETFL)` on a hooked socket. -/
theorem fcntlSetfl_hooked {file : File} (h : file.unhooked = false) (hsys : file.sysNonblock = true)
    (arg : Flags) (ok : Bool) :
    file.fcntlSetfl arg ok
      = File.setfl { file with ctx := { file.ctx with userNonblock := arg &&& O_NONBLOCK ≠ 0 } }
          (arg ||| O_NONBLOCK) ok := by
  simp [File.fcntlSetfl, h, hsys, setUserNonblock_hooked h]

theorem ioctlFionbio_hooked {file : File} (h : file.unhooked = false) (v : BitVec 32) :
    file.ioctlFionbio v
      = File.fionbio { file with ctx := { file.ctx with userNonblock := v ≠ 0 } } v := by
  simp [File.ioctlFionbio, h, setUserNonblock_hooked h]

theorem Noted.call {file : File} {wanted : Wanted} (h : Noted file wanted) (c : ModeCall) :
    Noted (file.call c) (wanted.call c) := by
  cases c with
  | getfl => exact h
  | setfl arg ok =>
    rw [File.call, fcntlSetfl_hooked h.hooked h.sys]
    cases ok with
    | false => exact ⟨h.hooked, h.sys, rfl, h.others⟩
    | true =>
      refine ⟨h.hooked, h.sys, rfl, ?_⟩
      simp only [File.setfl, Wanted.call, if_true]
      rw [write_and_not_mask, h.others]
  | fionbio v =>
    rw [File.call, ioctlFionbio_hooked h.hooked]
    refine ⟨h.hooked, h.sys, rfl, ?_⟩
    simp only [File.fionbio, Wanted.call]
    split
    · rw [or_and_not_mask, h.others]
    · rw [and_not_and_not_mask, h.others]

/-- What `F_GETFL` reports does not depend on the kernel's `O_NONBLOCK`. -/
theorem Noted.inMode {file : File} {wanted : Wanted} (h : Noted file wanted)
    (hkernel : file.flags &&& O_NONBLOCK = O_NONBLOCK) : InMode file wanted := by
  refine ⟨hkernel, ?_, ?_⟩
  · simp only [File.fcntlGetfl, h.hooked, h.user, Bool.false_eq_true, if_false]
    split
    · exact or_and_mask _ _
    · exact and_not_and_mask _ _
  · simp only [File.fcntlGetfl, h.hooked, Bool.false_eq_true, if_false]
    split
    · rw [or_and_not_mask, h.others]
    · rw [and_not_and_not_mask, h.others]

/-- The call asks the kernel for a blocking socket. -/
def ModeCall.blocks : ModeCall → Bool
  | .fionbio v => v = 0
  | _ => false

/-- Every other call leaves the kernel's flag set. -/
theorem kernel_call {file : File} {wanted : Wanted} (h : Noted file wanted)
    (hkernel : file.flags &&& O_NONBLOCK = O_NONBLOCK) {c : ModeCall} (hc : c.blocks = false) :
    (file.call c).flags &&& O_NONBLOCK = O_NONBLOCK := by
  cases c with
  | getfl => exact hkernel
  | setfl arg ok =>
    rw [File.call, fcntlSetfl_hooked h.hooked h.sys]
    cases ok with
    | false => exact hkernel
    | true => exact write_and_mask _ _ _ _ (by decide)
  | fionbio v =>
    have hv : v ≠ 0 := by simpa [ModeCall.blocks] using hc
    rw [File.call, ioctlFionbio_hooked h.hooked, File.fionbio]
    simp only [hv, ne_eq, not_false_eq_true, if_true]
    exact or_and_mask _ _

theorem blocking_call {file : File} {wanted : Wanted} (h : Noted file wanted) {c : ModeCall}
    (hc : c.blocks = true) : (file.call c).flags &&& O_NONBLOCK = 0 := by
  cases c with
  | getfl => cases hc
  | setfl arg ok => cases hc
  | fionbio v =>
    have hv : v = 0 := by simpa [ModeCall.blocks] using hc
    rw [File.call, ioctlFionbio_hooked h.hooked, File.fionbio]
    simp only [hv, ne_eq, not_true_eq_false, if_false]
    exact and_not_and_mask _ _

/-- The file after a sequence of calls, and what was asked for by then. -/
def File.calls (file : File) (cs : List ModeCall) : File := cs.foldl File.call file

def Wanted.calls (wanted : Wanted) (cs : List ModeCall) : Wanted := cs.foldl Wanted.call wanted

theorem calls_concat (file : File) (cs : List ModeCall) (c : ModeCall) :
    file.calls (cs ++ [c]) = (file.calls cs).call c := by
  simp [File.calls]

theorem Noted.calls {file : File} {wanted : Wanted} (h : Noted file wanted) (cs : List ModeCall) :
    Noted (file.calls cs) (wanted.calls cs) := by
  induction cs generalizing file wanted with
  | nil => exact h
  | cons c cs ih => exact ih (h.call c)

theorem kernel_calls {file : File} {wanted : Wanted} (h : Noted file wanted)
    (hkernel : file.flags &&& O_NONBLOCK = O_NONBLOCK) {cs : List ModeCall}
    (hcs : ∀ c ∈ cs, c.blocks = false) : (file.calls cs).flags &&& O_NONBLOCK = O_NONBLOCK := by
  induction cs generalizing file wanted with
  | nil => exact hkernel
  | cons c cs ih =>
    have hc := kernel_call h hkernel (hcs c List.mem_cons_self)
    exact ih (h.call c) hc fun d hd => hcs d (List.mem_cons_of_mem c hd)

/-- In every state that a sequence of calls goes through the socket does not block and
`F_GETFL` reports what the user asked for, exactly if no `ioctl(FIONBIO)` among the calls
has the value 0. -/
theorem nonblocking_iff (flags : Flags) (cs : List ModeCall) :
    (∀ before, before <+: cs →
        InMode ((initSocket flags).calls before) ((Wanted.init flags).calls before))
      ↔ ∀ c ∈ cs, c.blocks = false := by
  constructor
  · intro hall c hc
    obtain ⟨before, rest, rfl⟩ := List.append_of_mem hc
    by_contra hblocks
    have hnoted := (noted_init flags).calls before
    have hzero := blocking_call hnoted (Bool.not_eq_false _ ▸ hblocks)
    have hkernel := (hall (before ++ [c]) ⟨rest, by simp⟩).kernel
    rw [calls_concat, hzero] at hkernel
    exact absurd hkernel (by decide)
  · rintro hcs before ⟨rest, rfl⟩
    have hbefore : ∀ c ∈ before, c.blocks = false :=
      fun c hc => hcs c (List.mem_append_left rest hc)
    have hkernel := kernel_calls (noted_init flags) (kernel_init flags) hbefore
    exact ((noted_init flags).calls before).inMode hkernel

/-- A user turns the non-blocking mode off by `ioctl`: the socket itself blocks. -/
theorem blocking_after_ioctl :
    ((initSocket 0x2).calls [.fionbio 0]).flags &&& O_NONBLOCK = 0
      ∧ ¬ InMode ((initSocket 0x2).calls [.fionbio 0]) ((Wanted.init 0x2).calls [.fionbio 0]) := by
  refine ⟨by decide, fun h => ?_⟩
  exact absurd h.kernel (by decide)

/-- By `fcntl` it does not. -/
example : ((initSocket 0x2).calls [.setfl 0x802 true, .setfl 0x2 true]).flags = 0x802
    ∧ ((initSocket 0x2).calls [.setfl 0x802 true, .setfl 0x2 true]).fcntlGetfl = 0x2 := by
  decide

end Hook

end HrServer
