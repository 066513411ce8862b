/-! Names that start with `amdgcn`, in the form that `Listing` reads. -/
namespace Reckoner.Llvm.Intrinsic.Table

def amdgcn : String :=
  "amdgcn(add(max(i32 u32) min(i32 u32)) addrspacecast.nonnull* alignbyte ashr.pk(i8.i32 u8.i32)
    ballot* bitop3* buffer.wbinvl1!(sc vol) call.whole.wave* class* cluster(id(x y z)
    load(async.to.lds(b128 b32 b64 b8) b128* b32* b64*) workgroup(flat.id id(x y z) max(flat.id
    id(x y z)))) cooperative.atomic(load(16x8B* 32x4B* 8x16B*) store(16x8B* 32x4B* 8x16B*)) cos*=1
    cs.chain* cubeid cubema cubesc cubetc cvt(f16(bf8 fp8) f32(bf8 fp8!(e5m3)) off.f32.i4
    pk(bf8(f16 f32) f16(bf8 fp8) f32(bf8 fp8) fp8(f16 f32!(e5m3)) i16 u16 u8.f32) pknorm(i16 u16)
    pkrtz scale(pk16(bf16(bf6 fp6) f16(bf6 fp6) f32(bf6 fp6)) pk8(bf16(bf8 fp4 fp8) f16(bf8 fp4
    fp8) f32(bf8 fp4 fp8))) scalef32(2xpk16(bf6.f32 fp6.f32) f16(bf8 fp8) f32(bf8 fp8) pk(bf16(bf8
    fp4 fp8) bf8(bf16 f16 f32) f16(bf8 fp4 fp8) f32(bf8 fp4 fp8) fp4(bf16 f16 f32) fp8(bf16 f16
    f32)) pk16(bf6(bf16 f16 f32) fp6(bf16 f16 f32)) pk32(bf16(bf6 fp6) bf6(bf16 f16) f16(bf6 fp6)
    f32(bf6 fp6) fp6(bf16 f16)) pk8(bf8(bf16 f16 f32) fp4(bf16 f16 f32) fp8(bf16 f16 f32))
    sr(bf8(bf16 f16 f32) fp8(bf16 f16 f32) pk.fp4(bf16 f16 f32) pk16(bf6(bf16 f16 f32) fp6(bf16 f16
    f32)) pk32(bf6(bf16 f16 f32) fp6(bf16 f16 f32)) pk8(bf8(bf16 f16 f32) fp4(bf16 f16 f32)
    fp8(bf16 f16 f32)))) sr(bf16.f32 bf8(f16 f32) f16.f32 fp8(f16 f32!(e5m3)) pk(bf16.f32
    f16.f32))) dead*=0 dispatch(id ptr) div(fixup*=3 fmas* scale*) dot4.f32(bf8(bf8 fp8) fp8(bf8
    fp8)) ds(add.gs.reg.rtn* append* atomic(async.barrier.arrive.b64 barrier.arrive.rtn.b64)
    bpermute!(fi.b32) bvh.stack(push4.pop1.rtn push8(pop1.rtn pop2.rtn) rtn) consume* gws(barrier
    init sema(br p release.all v)) load(tr16.b128* tr4.b64* tr6.b96* tr8.b64*) ordered(add swap)
    permute read(tr16.b64* tr4.b64* tr6.b96* tr8.b64*) sub.gs.reg.rtn* swizzle) else* end.cf*
    endpgm exp*(compr* row*) exp2*=1 fcmp* fdiv.fast fdot2!(bf16.bf16 f16.f16 f32.bf16)
    fdot2c.f32.bf16 flat(atomic(fmax.num* fmin.num*) load.monitor(b128* b32* b64*) prefetch)
    fma.legacy fmad.ftz*=3 fmed3*=3 fmul.legacy fract*=1 frexp(exp* mant*=1)
    global(atomic(fmax.num* fmin.num* ordered.add.b64) load(async.to.lds(b128 b32 b64 b8) lds
    monitor(b128* b32* b64*) tr(b128* b64*) tr4.b64* tr6.b96*) prefetch store.async.from.lds(b128
    b32 b64 b8)) groupstaticsize icmp* if*(break*) iglp.opt image(atomic(add(1d* 1darray* 2d*
    2darray* 2darraymsaa* 2dmsaa* 3d* cube* flt(1d* 1darray* 2d* 2darray* 2darraymsaa* 2dmsaa* 3d*
    cube*)) and(1d* 1darray* 2d* 2darray* 2darraymsaa* 2dmsaa* 3d* cube*) cmpswap(1d* 1darray* 2d*
    2darray* 2darraymsaa* 2dmsaa* 3d* cube*) dec(1d* 1darray* 2d* 2darray* 2darraymsaa* 2dmsaa* 3d*
    cube*) fmax(1d* 1darray* 2d* 2darray* 2darraymsaa* 2dmsaa* 3d* cube*) fmin(1d* 1darray* 2d*
    2darray* 2darraymsaa* 2dmsaa* 3d* cube*) inc(1d* 1darray* 2d* 2darray* 2darraymsaa* 2dmsaa* 3d*
    cube*) max.flt(1d* 1darray* 2d* 2darray* 2darraymsaa* 2dmsaa* 3d* cube*) min.flt(1d* 1darray*
    2d* 2darray* 2darraymsaa* 2dmsaa* 3d* cube*) or(1d* 1darray* 2d* 2darray* 2darraymsaa* 2dmsaa*
    3d* cube*) pk.add(bf16(1d* 1darray* 2d* 2darray* 2darraymsaa* 2dmsaa* 3d* cube*) f16(1d*
    1darray* 2d* 2darray* 2darraymsaa* 2dmsaa* 3d* cube*)) smax(1d* 1darray* 2d* 2darray*
    2darraymsaa* 2dmsaa* 3d* cube*) smin(1d* 1darray* 2d* 2darray* 2darraymsaa* 2dmsaa* 3d* cube*)
    sub(1d* 1darray* 2d* 2darray* 2darraymsaa* 2dmsaa* 3d* cube*) swap(1d* 1darray* 2d* 2darray*
    2darraymsaa* 2dmsaa* 3d* cube*) umax(1d* 1darray* 2d* 2darray* 2darraymsaa* 2dmsaa* 3d* cube*)
    umin(1d* 1darray* 2d* 2darray* 2darraymsaa* 2dmsaa* 3d* cube*) xor(1d* 1darray* 2d* 2darray*
    2darraymsaa* 2dmsaa* 3d* cube*)) bvh(dual.intersect.ray intersect.ray*) bvh8.intersect.ray
    gather4(2d* 2darray* b(2d* 2darray* cl(2d* 2darray* cube* o(2d* 2darray* cube*)) cube* o(2d*
    2darray* cube*)) c(2d* 2darray* b(2d* 2darray* cl(2d* 2darray* cube* o(2d* 2darray* cube*))
    cube* o(2d* 2darray* cube*)) cl(2d* 2darray* cube* o(2d* 2darray* cube*)) cube* l(2d* 2darray*
    cube* o(2d* 2darray* cube*)) lz(2d* 2darray* cube* o(2d* 2darray* cube*)) o(2d* 2darray*
    cube*)) cl(2d* 2darray* cube* o(2d* 2darray* cube*)) cube* l(2d* 2darray* cube* o(2d* 2darray*
    cube*)) lz(2d* 2darray* cube* o(2d* 2darray* cube*)) o(2d* 2darray* cube*)) getlod(1d* 1darray*
    2d* 2darray* 3d* cube*) getresinfo(1d* 1darray* 2d* 2darray* 2darraymsaa* 2dmsaa* 3d* cube*)
    load(1d* 1darray* 2d* 2darray* 2darraymsaa* 2dmsaa* 3d* cube* mip(1d* 1darray* 2d* 2darray* 3d*
    cube*)) msaa.load(2darraymsaa* 2dmsaa* x(2darraymsaa* 2dmsaa*)) sample(1d*(nortn*)
    1darray*(nortn*) 2d*(nortn*) 2darray*(nortn*) 3d*(nortn*) b(1d*(nortn*) 1darray*(nortn*)
    2d*(nortn*) 2darray*(nortn*) 3d*(nortn*) cl(1d*(nortn*) 1darray*(nortn*) 2d*(nortn*)
    2darray*(nortn*) 3d*(nortn*) cube*(nortn*) o(1d*(nortn*) 1darray*(nortn*) 2d*(nortn*)
    2darray*(nortn*) 3d*(nortn*) cube*(nortn*))) cube*(nortn*) o(1d*(nortn*) 1darray*(nortn*)
    2d*(nortn*) 2darray*(nortn*) 3d*(nortn*) cube*(nortn*))) c(1d*(nortn*) 1darray*(nortn*)
    2d*(nortn*) 2darray*(nortn*) 3d*(nortn*) b(1d*(nortn*) 1darray*(nortn*) 2d*(nortn*)
    2darray*(nortn*) 3d*(nortn*) cl(1d*(nortn*) 1darray*(nortn*) 2d*(nortn*) 2darray*(nortn*)
    3d*(nortn*) cube*(nortn*) o(1d*(nortn*) 1darray*(nortn*) 2d*(nortn*) 2darray*(nortn*)
    3d*(nortn*) cube*(nortn*))) cube*(nortn*) o(1d*(nortn*) 1darray*(nortn*) 2d*(nortn*)
    2darray*(nortn*) 3d*(nortn*) cube*(nortn*))) cd(1d*(nortn*) 1darray*(nortn*) 2d*(nortn*)
    2darray*(nortn*) 3d*(nortn*) cl(1d*(nortn*) 1darray*(nortn*) 2d*(nortn*) 2darray*(nortn*)
    3d*(nortn*) cube*(nortn*) o(1d*(nortn*) 1darray*(nortn*) 2d*(nortn*) 2darray*(nortn*)
    3d*(nortn*) cube*(nortn*))) cube*(nortn*) o(1d*(nortn*) 1darray*(nortn*) 2d*(nortn*)
    2darray*(nortn*) 3d*(nortn*) cube*(nortn*))) cl(1d*(nortn*) 1darray*(nortn*) 2d*(nortn*)
    2darray*(nortn*) 3d*(nortn*) cube*(nortn*) o(1d*(nortn*) 1darray*(nortn*) 2d*(nortn*)
    2darray*(nortn*) 3d*(nortn*) cube*(nortn*))) cube*(nortn*) d(1d*(nortn*) 1darray*(nortn*)
    2d*(nortn*) 2darray*(nortn*) 3d*(nortn*) cl(1d*(nortn*) 1darray*(nortn*) 2d*(nortn*)
    2darray*(nortn*) 3d*(nortn*) cube*(nortn*) o(1d*(nortn*) 1darray*(nortn*) 2d*(nortn*)
    2darray*(nortn*) 3d*(nortn*) cube*(nortn*))) cube*(nortn*) o(1d*(nortn*) 1darray*(nortn*)
    2d*(nortn*) 2darray*(nortn*) 3d*(nortn*) cube*(nortn*))) l(1d*(nortn*) 1darray*(nortn*)
    2d*(nortn*) 2darray*(nortn*) 3d*(nortn*) cube*(nortn*) o(1d*(nortn*) 1darray*(nortn*)
    2d*(nortn*) 2darray*(nortn*) 3d*(nortn*) cube*(nortn*))) lz(1d*(nortn*) 1darray*(nortn*)
    2d*(nortn*) 2darray*(nortn*) 3d*(nortn*) cube*(nortn*) o(1d*(nortn*) 1darray*(nortn*)
    2d*(nortn*) 2darray*(nortn*) 3d*(nortn*) cube*(nortn*))) o(1d*(nortn*) 1darray*(nortn*)
    2d*(nortn*) 2darray*(nortn*) 3d*(nortn*) cube*(nortn*))) cd(1d*(nortn*) 1darray*(nortn*)
    2d*(nortn*) 2darray*(nortn*) 3d*(nortn*) cl(1d*(nortn*) 1darray*(nortn*) 2d*(nortn*)
    2darray*(nortn*) 3d*(nortn*) cube*(nortn*) o(1d*(nortn*) 1darray*(nortn*) 2d*(nortn*)
    2darray*(nortn*) 3d*(nortn*) cube*(nortn*))) cube*(nortn*) o(1d*(nortn*) 1darray*(nortn*)
    2d*(nortn*) 2darray*(nortn*) 3d*(nortn*) cube*(nortn*))) cl(1d*(nortn*) 1darray*(nortn*)
    2d*(nortn*) 2darray*(nortn*) 3d*(nortn*) cube*(nortn*) o(1d*(nortn*) 1darray*(nortn*)
    2d*(nortn*) 2darray*(nortn*) 3d*(nortn*) cube*(nortn*))) cube*(nortn*) d(1d*(nortn*)
    1darray*(nortn*) 2d*(nortn*) 2darray*(nortn*) 3d*(nortn*) cl(1d*(nortn*) 1darray*(nortn*)
    2d*(nortn*) 2darray*(nortn*) 3d*(nortn*) cube*(nortn*) o(1d*(nortn*) 1darray*(nortn*)
    2d*(nortn*) 2darray*(nortn*) 3d*(nortn*) cube*(nortn*))) cube*(nortn*) o(1d*(nortn*)
    1darray*(nortn*) 2d*(nortn*) 2darray*(nortn*) 3d*(nortn*) cube*(nortn*))) l(1d*(nortn*)
    1darray*(nortn*) 2d*(nortn*) 2darray*(nortn*) 3d*(nortn*) cube*(nortn*) o(1d*(nortn*)
    1darray*(nortn*) 2d*(nortn*) 2darray*(nortn*) 3d*(nortn*) cube*(nortn*))) lz(1d*(nortn*)
    1darray*(nortn*) 2d*(nortn*) 2darray*(nortn*) 3d*(nortn*) cube*(nortn*) o(1d*(nortn*)
    1darray*(nortn*) 2d*(nortn*) 2darray*(nortn*) 3d*(nortn*) cube*(nortn*))) o(1d*(nortn*)
    1darray*(nortn*) 2d*(nortn*) 2darray*(nortn*) 3d*(nortn*) cube*(nortn*))) store(1d* 1darray*
    2d* 2darray* 2darraymsaa* 2dmsaa* 3d* cube* mip(1d* 1darray* 2d* 2darray* 3d* cube*)))
    implicit.buffer.ptr implicitarg.ptr init(exec!(from.input) whole.wave) interp(inreg(p10!(f16)
    p2!(f16)) mov p1!(f16) p10.rtz.f16 p2!(f16 rtz.f16)) inverse.ballot* is(private shared)
    kernarg.segment.ptr kill lds(direct.load* kernel.id param.load) lerp live.mask load.to.lds*
    log*=1(clamp*=1) loop* make.buffer.rsrc* mbcnt(hi lo) mfma(f32(16x16x16bf16.1k 16x16x16f16
    16x16x1f32 16x16x2bf16 16x16x32(bf16 bf8(bf8 fp8) f16 fp8(bf8 fp8)) 16x16x4bf16.1k 16x16x4f16
    16x16x4f32 16x16x8.xf32 16x16x8bf16 32x32x16(bf16 bf8(bf8 fp8) f16 fp8(bf8 fp8)) 32x32x1f32
    32x32x2bf16 32x32x2f32 32x32x4.xf32 32x32x4bf16!(1k) 32x32x4f16 32x32x8bf16.1k 32x32x8f16
    4x4x1f32 4x4x2bf16 4x4x4bf16.1k 4x4x4f16) f64(16x16x4f64 4x4x4f64) i32(16x16x16i8 16x16x32.i8
    16x16x4i8 16x16x64.i8 32x32x16.i8 32x32x32.i8 32x32x4i8 32x32x8i8 4x4x4i8)
    scale.f32(16x16x128.f8f6f4* 32x32x64.f8f6f4*)) mov(dpp* dpp8*) mqsad(pk.u16.u8 u32.u8) msad.u8
    mul(i24* u24*) mulhi(i24 u24) perm!(pk16(b4.u4 b6.u4 b8.u4)) permlane(bcast down idx.gen up
    xor) permlane16*(swap var) permlane32.swap permlane64*=1 permlanex16*(var) pk.add(max(i16 u16)
    min(i16 u16)) pops.exiting.wave.id prng.b32 ps.live qsad.pk.u16.u8 queue.ptr
    raw(atomic.buffer.load* buffer(atomic(add* and* cmpswap* cond.sub.u32* dec* fadd* fmax* fmin*
    inc* or* smax* smin* sub*(clamp.u32*) swap* umax* umin* xor*) load*(format* lds)
    store*(format*)) ptr(atomic.buffer.load* buffer(atomic(add* and* cmpswap* cond.sub.u32* dec*
    fadd* fmax* fmin* inc* or* smax* smin* sub*(clamp.u32*) swap* umax* umin* xor*) load*(format*
    lds) store*(format*)) tbuffer(load* store*)) tbuffer(load* store*)) rcp*=1(legacy)
    readfirstlane*=1 readlane* reloc.constant rsq*=1(clamp*=1 legacy) s(barrier!(init join leave
    signal!(isfirst var) wait) bitreplicate buffer(load* prefetch.data) cluster.barrier
    dcache(inv!(vol) wb!(vol)) decperflevel get(barrier.state named.barrier.state
    waveid.in.workgroup) getpc getreg incperflevel memrealtime memtime monitor.sleep nop
    prefetch.data* quadmask* sendmsg!(rtn*) sendmsghalt sethalt setprio!(inc.wg) setreg sleep!(var)
    ttracedata!(imm) wait(asynccnt bvhcnt dscnt event.export.ready expcnt kmcnt loadcnt samplecnt
    storecnt tensorcnt) waitcnt wakeup.barrier wqm*) sad(hi.u8 u16 u8) sat.pk4(i4.i8 u4.u8) sbfe*
    sched(barrier group.barrier) sdot2 sdot4 sdot8 set.inactive*=2(chain.arg*) sffbh* sin*=1
    smfmac(f32(16x16x128(bf8(bf8 fp8) fp8(bf8 fp8)) 16x16x32(bf16 f16) 16x16x64(bf16 bf8(bf8 fp8)
    f16 fp8(bf8 fp8)) 32x32x16(bf16 f16) 32x32x32(bf16 bf8(bf8 fp8) f16 fp8(bf8 fp8))
    32x32x64(bf8(bf8 fp8) fp8(bf8 fp8))) i32(16x16x128.i8 16x16x64.i8 32x32x32.i8 32x32x64.i8))
    softwqm*=1 sqrt*=1 strict(wqm*=1 wwm*=1) struct(atomic.buffer.load* buffer(atomic(add* and*
    cmpswap* cond.sub.u32* dec* fadd* fmax* fmin* inc* or* smax* smin* sub*(clamp.u32*) swap* umax*
    umin* xor*) load*(format* lds) store*(format*)) ptr(atomic.buffer.load* buffer(atomic(add* and*
    cmpswap* cond.sub.u32* dec* fadd* fmax* fmin* inc* or* smax* smin* sub*(clamp.u32*) swap* umax*
    umin* xor*) load*(format* lds) store*(format*)) tbuffer(load* store*)) tbuffer(load* store*))
    sudot4 sudot8 swmmac(bf16(16x16x32.bf16* 16x16x64.bf16*) bf16f32.16x16x64.bf16*
    f16(16x16x128(bf8(bf8* fp8*) fp8(bf8* fp8*)) 16x16x32.f16* 16x16x64.f16*)
    f32(16x16x128(bf8(bf8* fp8*) fp8(bf8* fp8*)) 16x16x32(bf16* bf8(bf8* fp8*) f16* fp8(bf8* fp8*))
    16x16x64(bf16* f16*)) i32(16x16x128.iu8* 16x16x32(iu4* iu8*) 16x16x64.iu4*)) tanh*=1
    tensor(load.to.lds!(d2) store.from.lds!(d2)) trig.preop* ubfe* udot2 udot4 udot8 unreachable
    update.dpp* wave(barrier id reduce(add* and* fadd* fmax* fmin* fsub* max* min* or* sub* umax*
    umin* xor*) shuffle*) wavefrontsize wmma(bf16(16x16x16.bf16*(tied*) 16x16x32.bf16*)
    bf16f32.16x16x32.bf16* f16(16x16x128(bf8(bf8* fp8*) fp8(bf8* fp8*)) 16x16x16.f16*(tied*)
    16x16x32.f16* 16x16x64(bf8(bf8* fp8*) fp8(bf8* fp8*))) f32(16x16x128(bf8(bf8* fp8*) f8f6f4*
    fp8(bf8* fp8*)) 16x16x16(bf16* bf8(bf8* fp8*) f16**=3 fp8(bf8* fp8*)) 16x16x32(bf16* f16*)
    16x16x4.f32* 16x16x64(bf8(bf8* fp8*) fp8(bf8* fp8*)) 32x16x128.f4*) i32(16x16x16(iu4* iu8*)
    16x16x32.iu4* 16x16x64.iu8*) scale.f32(16x16x128.f8f6f4* 32x16x128.f4*)
    scale16.f32(16x16x128.f8f6f4* 32x16x128.f4*)) workgroup.id(x y z) workitem.id(x y z)
    wqm*=1(demote vote) writelane* wwm*=1)"

end Reckoner.Llvm.Intrinsic.Table
