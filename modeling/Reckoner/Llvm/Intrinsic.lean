import Reckoner.IR.Module
import Reckoner.Llvm.Intrinsic.Listing
import Reckoner.Llvm.Intrinsic.Meaning
import Reckoner.Llvm.Intrinsic.Table.AArch64
import Reckoner.Llvm.Intrinsic.Table.Amdgcn
import Reckoner.Llvm.Intrinsic.Table.Arm
import Reckoner.Llvm.Intrinsic.Table.General
import Reckoner.Llvm.Intrinsic.Table.Hexagon
import Reckoner.Llvm.Intrinsic.Table.LoongArch
import Reckoner.Llvm.Intrinsic.Table.Mips
import Reckoner.Llvm.Intrinsic.Table.Nvvm
import Reckoner.Llvm.Intrinsic.Table.Others
import Reckoner.Llvm.Intrinsic.Table.Ppc
import Reckoner.Llvm.Intrinsic.Table.RiscV
import Reckoner.Llvm.Intrinsic.Table.Ve
import Reckoner.Llvm.Intrinsic.Table.X86

/-! Intrinsics.

An intrinsic is a function that is known without a definition, by a name that
starts with `llvm.`. Many take or give what is no double, and no call can fit them
here, where all arguments and values are doubles. A reserved name that is that of no
intrinsic is a name like any other, but cannot be defined. Names of intrinsics that
have been withdrawn may still be declared and defined, but not called. A definition
under a name that is not the full one of its intrinsic gives way to the intrinsic. -/
namespace Reckoner.Llvm
open IR

/-- A name without the reserved start. -/
def unreserved (name : String) : String :=
  String.ofList (name.toList.drop reservedStart.length)

namespace Intrinsic

/-- All intrinsics. -/
def all : List Intrinsic :=
  [Table.general, Table.aArch64, Table.amdgcn, Table.arm, Table.hexagon, Table.loongArch,
    Table.mips, Table.nvvm, Table.others, Table.ppc, Table.riscV, Table.ve, Table.x86].flatMap
    Listing.read

/-- The beginnings of a name that end with one of its parts, the longest first. -/
def beginnings (name : String) : List String :=
  let parts := name.splitOn "."
  (List.range parts.length).map fun n => ".".intercalate (parts.take (parts.length - n))

/-- The intrinsic that a name behind the reserved start stands for. It has to be the
longest beginning of the name with which any intrinsic starts; what follows it are
types. -/
def find? (name : String) : Option Intrinsic :=
  let reached := (beginnings name).find? fun s => all.any (·.stem.startsWith s)
  reached.bind fun stem =>
    (all.find? (·.stem = stem)).filter fun i => i.types ≠ 0 || stem = name

/-- The intrinsic of a name. -/
def ofName? (name : String) : Option Intrinsic :=
  if isReserved name then find? (unreserved name) else none

/-- The full name of an intrinsic that takes doubles. -/
def fullName (i : Intrinsic) : String :=
  reservedStart ++ i.stem ++ String.join (List.replicate i.types ".f64")

/-- A name that stands for an intrinsic of so many doubles but is not its full one. -/
def isAlias (name : String) (arity : Nat) : Bool :=
  (ofName? name).any fun i => i.arity = some arity && i.fullName ≠ name

/-- What an intrinsic computes, if it can be run. -/
def meaning? (i : Intrinsic) : Option Meaning :=
  Meaning.ofStems.lookup i.stem

/-- A name of an intrinsic for a collector of garbage, which takes no doubles and so
cannot even be declared. -/
def isOfCollector (name : String) : Bool :=
  (ofName? name).any fun i =>
    i.stem = "experimental.gc.get.pointer.base" || i.stem = "experimental.gc.get.pointer.offset"

/-- The names of intrinsics that have been withdrawn. -/
def withdrawn : List String :=
  ["dbg.addr", "dbg.assign", "dbg.declare", "dbg.label", "dbg.value", "stackprotectorcheck",
    "thread.pointer", "aarch64.thread.pointer", "aarch64.sve.tuple.create2",
    "aarch64.sve.tuple.create3", "aarch64.sve.tuple.create4", "arm.thread.pointer",
    "amdgcn.alignbit", "x86.seh.recoverfp", "nvvm.abs.i", "nvvm.abs.ll", "nvvm.bar.sync",
    "nvvm.barrier", "nvvm.barrier.n", "nvvm.barrier.sync", "nvvm.barrier.sync.cnt",
    "nvvm.barrier0", "nvvm.barrier0.and", "nvvm.barrier0.or", "nvvm.barrier0.popc", "nvvm.clz.ll",
    "nvvm.h2f", "nvvm.popc.ll", "nvvm.rotate.b32", "nvvm.rotate.b64", "nvvm.rotate.right.b64",
    "nvvm.swap.lo.hi.b64"]

/-- What the names of others that have been withdrawn start with. -/
def withdrawnStarts : List String :=
  ["flt.rounds", "invariant.group.barrier", "experimental.stepvector.",
    "experimental.vector.deinterleave2.", "experimental.vector.extract.",
    "experimental.vector.insert.", "experimental.vector.interleave2.",
    "experimental.vector.partial.reduce.add", "experimental.vector.reverse.",
    "aarch64.neon.bfcvt", "aarch64.neon.rbit", "aarch64.rbit", "aarch64.sve.tuple.get",
    "aarch64.sve.tuple.set", "amdgcn.ldexp.", "arm.neon.vclz.", "arm.neon.vcnt.", "arm.rbit",
    "nvvm.ldg.global.f.", "nvvm.ldg.global.i.", "nvvm.ldg.global.p.", "wasm.fma.", "wasm.fms."]

/-- Forms of intrinsics that have been withdrawn: what their names start with, and how
many arguments they take. -/
def withdrawnForms : List (String × Nat) :=
  [("ctlz.", 1), ("cttz.", 1), ("coro.end", 2), ("lifetime.start", 2), ("lifetime.end", 2),
    ("objectsize.", 2), ("objectsize.", 3), ("masked.gather", 4), ("masked.load", 4),
    ("masked.scatter", 4), ("masked.store", 4), ("ptr.annotation.", 4), ("var.annotation", 4),
    ("memcpy.", 5), ("memmove.", 5), ("memset.", 5)]

/-- A name of an intrinsic that has been withdrawn, at least with so many arguments. -/
def isWithdrawn (name : String) (arity : Nat) : Bool :=
  let stem := unreserved name
  isReserved name &&
    (withdrawn.contains stem || withdrawnStarts.any (fun start => stem.startsWith start) ||
      withdrawnForms.any fun form => form.2 = arity && stem.startsWith form.1)

end Intrinsic

end Reckoner.Llvm
