/-! Names that start with `nvvm`, in the form that `Listing` reads. -/
namespace Reckoner.Llvm.Intrinsic.Table

def nvvm : String :=
  "nvvm(activemask add(rm(d=2 f ftz(f sat.f) sat.f) rn(d=2 f ftz(f sat.f) sat.f) rp(d=2 f ftz(f
    sat.f) sat.f) rz(d=2 f ftz(f sat.f) sat.f)) applypriority(L2.evict.normal
    global.L2.evict.normal) atomic(add.gen(f(cta* sys*) i(cta* sys*)) and.gen.i(cta* sys*)
    cas.gen.i(cta* sys*) dec.gen.i(cta* sys*) exch.gen.i(cta* sys*) inc.gen.i(cta* sys*)
    max.gen.i(cta* sys*) min.gen.i(cta* sys*) or.gen.i(cta* sys*) xor.gen.i(cta* sys*))
    bar.warp.sync barrier(cluster(arrive!(aligned relaxed!(aligned)) wait!(aligned))
    cta(arrive(aligned.count count) red(and(aligned(all count) all count) or(aligned(all count) all
    count) popc(aligned(all count) all count)) sync(aligned(all count) all count)))
    bf16x2.to.ue8m0x2(rp!(satfinite) rz!(satfinite)) bf2h.rn!(ftz) bmsk(clamp wrap) ceil(d=1 f
    ftz.f) clusterlaunchcontrol(query_cancel(get_first_ctaid(x y z) is_canceled)
    try_cancel.async(multicast.shared shared)) compiler(error* warn*) cos.approx(f ftz.f)
    cp.async(bulk(commit.group global.to.shared(cluster cta) prefetch.L2 shared.cta.to(cluster
    global!(bytemask)) tensor(g2s(cta(im2col(3d 4d 5d w(128(3d 4d 5d) 3d 4d 5d)) tile(1d 2d 3d 4d
    5d gather4.2d)) im2col(3d 4d 5d w(128(3d 4d 5d) 3d 4d 5d)) tile(1d 2d 3d 4d 5d gather4.2d))
    prefetch(im2col(3d 4d 5d w(128(3d 4d 5d) 3d 4d 5d)) tile(1d 2d 3d 4d 5d gather4.2d))
    reduce(add(im2col(3d 4d 5d) tile(1d 2d 3d 4d 5d)) and(im2col(3d 4d 5d) tile(1d 2d 3d 4d 5d))
    dec(im2col(3d 4d 5d) tile(1d 2d 3d 4d 5d)) inc(im2col(3d 4d 5d) tile(1d 2d 3d 4d 5d))
    max(im2col(3d 4d 5d) tile(1d 2d 3d 4d 5d)) min(im2col(3d 4d 5d) tile(1d 2d 3d 4d 5d))
    or(im2col(3d 4d 5d) tile(1d 2d 3d 4d 5d)) xor(im2col(3d 4d 5d) tile(1d 2d 3d 4d 5d)))
    s2g(im2col(3d 4d 5d) tile(1d 2d 3d 4d 5d scatter4.2d))) wait.group!(read))
    ca.shared.global(16!(s) 4!(s) 8!(s)) cg.shared.global.16!(s) commit.group
    mbarrier.arrive!(noinc!(shared) shared) wait(all group)) d2f(rm!(ftz) rn!(ftz) rp!(ftz)
    rz!(ftz)) d2i(hi lo rm rn rp rz) d2ll(rm rn rp rz) d2ui(rm rn rp rz) d2ull(rm rn rp rz)
    discard(L2 global.L2) div(approx(f ftz.f) full!(ftz) rm(d=2 f ftz.f) rn(d=2 f ftz.f) rp(d=2 f
    ftz.f) rz(d=2 f ftz.f)) e2m1x2.to.f16x2.rn!(relu) e2m3x2.to.f16x2.rn!(relu)
    e3m2x2.to.f16x2.rn!(relu) e4m3x2.to.f16x2.rn!(relu) e5m2x2.to.f16x2.rn!(relu) elect.sync
    ex2.approx*=1(ftz*=1) exit f16x2.to(e4m3x2.rn!(relu) e5m2x2.rn!(relu))
    f2bf16(rn!(relu!(satfinite) satfinite) rz!(relu!(satfinite) satfinite))
    f2f16(rn!(relu!(satfinite) satfinite) rz!(relu!(satfinite) satfinite)) f2h.rn!(ftz)
    f2i(rm!(ftz) rn!(ftz) rp!(ftz) rz!(ftz)) f2ll(rm!(ftz) rn!(ftz) rp!(ftz) rz!(ftz))
    f2tf32(rn!(relu!(satfinite) satfinite) rna!(satfinite) rz!(relu!(satfinite) satfinite))
    f2ui(rm!(ftz) rn!(ftz) rp!(ftz) rz!(ftz)) f2ull(rm!(ftz) rn!(ftz) rp!(ftz) rz!(ftz))
    f32x4.to(e2m1x4.rs(relu.satfinite satfinite) e2m3x4.rs(relu.satfinite satfinite)
    e3m2x4.rs(relu.satfinite satfinite) e4m3x4.rs(relu.satfinite satfinite)
    e5m2x4.rs(relu.satfinite satfinite)) fabs*=1(ftz*=1)
    fence(acquire.sync_restrict.space.cluster.scope.cluster mbarrier_init.release.cluster
    proxy(alias async!(global shared_cluster shared_cta)
    async_generic(acquire.sync_restrict.space.cluster.scope.cluster
    release.sync_restrict.space.cta.scope.cluster) tensormap_generic(acquire(cluster cta gpu sys)
    release(cluster cta gpu sys))) release.sync_restrict.space.cta.scope.cluster sc.cluster)
    ff.to(e2m1x2.rn(relu.satfinite satfinite) e2m3x2.rn(relu.satfinite satfinite)
    e3m2x2.rn(relu.satfinite satfinite) e4m3x2.rn!(relu) e5m2x2.rn!(relu) ue8m0x2(rp!(satfinite)
    rz!(satfinite))) ff2bf16x2(rn!(relu!(satfinite) satfinite) rs!(relu!(satfinite) satfinite)
    rz!(relu!(satfinite) satfinite)) ff2f16x2(rn!(relu!(satfinite) satfinite) rs!(relu!(satfinite)
    satfinite) rz!(relu!(satfinite) satfinite)) flo(s* u*) floor(d=1 f ftz.f) fma(rm(d=3 f ftz(f
    sat.f) sat.f) rn(bf16 bf16x2 d=3 f f16 f16x2 ftz(bf16 bf16x2 f f16 f16x2 relu(bf16 bf16x2 f16
    f16x2) sat(bf16 bf16x2 f f16 f16x2)) relu(bf16 bf16x2 f16 f16x2) sat(bf16 bf16x2 f f16 f16x2))
    rp(d=3 f ftz(f sat.f) sat.f) rz(d=3 f ftz(f sat.f) sat.f)) fmax(bf16 bf16x2 d=2 f f16 f16x2
    ftz(bf16 bf16x2 f f16 f16x2 nan(bf16 bf16x2 f f16 f16x2 xorsign.abs(bf16 bf16x2 f f16 f16x2))
    xorsign.abs(bf16 bf16x2 f f16 f16x2)) nan(bf16 bf16x2 f f16 f16x2 xorsign.abs(bf16 bf16x2 f f16
    f16x2)) xorsign.abs(bf16 bf16x2 f f16 f16x2)) fmin(bf16 bf16x2 d=2 f f16 f16x2 ftz(bf16 bf16x2
    f f16 f16x2 nan(bf16 bf16x2 f f16 f16x2 xorsign.abs(bf16 bf16x2 f f16 f16x2)) xorsign.abs(bf16
    bf16x2 f f16 f16x2)) nan(bf16 bf16x2 f f16 f16x2 xorsign.abs(bf16 bf16x2 f f16 f16x2))
    xorsign.abs(bf16 bf16x2 f f16 f16x2)) fns fshl.clamp* fshr.clamp* getctarank!(shared.cluster)
    griddepcontrol(launch.dependents wait) i2d(rm rn rp rz) i2f(rm rn rp rz) idp2a(s(s u) u(s u))
    idp4a(s(s u) u(s u)) internal.addrspace.wrap* is_explicit_cluster isspacep(const global local
    shared!(cluster)) istypep(sampler surface texture) ldmatrix.sync.aligned(m16n16(x1.trans(b8*
    b8x16(b4x16_p64* b6x16_p32*)) x2.trans(b8* b8x16(b4x16_p64* b6x16_p32*)))
    m8n16(x1.b8x16(b4x16_p64* b6x16_p32*) x2.b8x16(b4x16_p64* b6x16_p32*) x4.b8x16(b4x16_p64*
    b6x16_p32*)) m8n8(x1(b16* trans.b16*) x2(b16* trans.b16*) x4(b16* trans.b16*))) ldu.global(f*
    i* p*) lg2.approx(d=1 f ftz.f) ll2d(rm rn rp rz) ll2f(rm rn rp rz) lohi.i2d
    mapa!(shared.cluster) match(all.sync(i32p i64p) any.sync(i32 i64))
    mbarrier(arrive!(drop!(expect.tx(relaxed.scope(cluster.space(cluster cta) cta.space(cluster
    cta)) scope(cluster.space(cluster cta) cta.space(cluster cta))) noComplete!(shared)
    relaxed.scope(cluster.space(cluster cta) cta.space(cluster cta)) scope(cluster.space(cluster
    cta) cta.space(cluster cta)) shared) expect.tx(relaxed.scope(cluster.space(cluster cta)
    cta.space(cluster cta)) scope(cluster.space(cluster cta) cta.space(cluster cta)))
    noComplete!(shared) relaxed.scope(cluster.space(cluster cta) cta.space(cluster cta))
    scope(cluster.space(cluster cta) cta.space(cluster cta)) shared)
    complete.tx.scope(cluster.space(cluster cta) cta.space(cluster cta))
    expect.tx.scope(cluster.space(cluster cta) cta.space(cluster cta)) init!(shared) inval!(shared)
    pending.count test.wait!(parity(relaxed.scope(cluster.space.cta cta.space.cta)
    scope(cluster.space.cta cta.space.cta)) relaxed.scope(cluster.space.cta cta.space.cta)
    scope(cluster.space.cta cta.space.cta) shared) try.wait(parity(relaxed.scope(cluster.space.cta
    cta.space.cta) scope(cluster.space.cta cta.space.cta) tl(relaxed.scope(cluster.space.cta
    cta.space.cta) scope(cluster.space.cta cta.space.cta))) relaxed.scope(cluster.space.cta
    cta.space.cta) scope(cluster.space.cta cta.space.cta) tl(relaxed.scope(cluster.space.cta
    cta.space.cta) scope(cluster.space.cta cta.space.cta)))) membar(cta gl sys)
    mma(and.popc(m16n8k128.row.col.b1 m16n8k256.row.col.b1 m8n8k128.row.col.b1)
    block.scale(m16n8k32.row.col.mxf8f6f4(f32(e2m1(e2m1.f32.ue8m0 e2m3.f32.ue8m0 e3m2.f32.ue8m0
    e4m3.f32.ue8m0 e5m2.f32.ue8m0) e2m3(e2m1.f32.ue8m0 e2m3.f32.ue8m0 e3m2.f32.ue8m0 e4m3.f32.ue8m0
    e5m2.f32.ue8m0) e3m2(e2m1.f32.ue8m0 e2m3.f32.ue8m0 e3m2.f32.ue8m0 e4m3.f32.ue8m0
    e5m2.f32.ue8m0) e4m3(e2m1.f32.ue8m0 e2m3.f32.ue8m0 e3m2.f32.ue8m0 e4m3.f32.ue8m0
    e5m2.f32.ue8m0) e5m2(e2m1.f32.ue8m0 e2m3.f32.ue8m0 e3m2.f32.ue8m0 e4m3.f32.ue8m0
    e5m2.f32.ue8m0)) scale.1x.f32(e2m1(e2m1.f32.ue8m0 e2m3.f32.ue8m0 e3m2.f32.ue8m0 e4m3.f32.ue8m0
    e5m2.f32.ue8m0) e2m3(e2m1.f32.ue8m0 e2m3.f32.ue8m0 e3m2.f32.ue8m0 e4m3.f32.ue8m0
    e5m2.f32.ue8m0) e3m2(e2m1.f32.ue8m0 e2m3.f32.ue8m0 e3m2.f32.ue8m0 e4m3.f32.ue8m0
    e5m2.f32.ue8m0) e4m3(e2m1.f32.ue8m0 e2m3.f32.ue8m0 e3m2.f32.ue8m0 e4m3.f32.ue8m0
    e5m2.f32.ue8m0) e5m2(e2m1.f32.ue8m0 e2m3.f32.ue8m0 e3m2.f32.ue8m0 e4m3.f32.ue8m0
    e5m2.f32.ue8m0))) m16n8k64.row.col(mxf4(f32.e2m1.e2m1.f32.ue8m0
    scale.2x.f32.e2m1.e2m1.f32.ue8m0) mxf4nvf4.scale(2x.f32.e2m1.e2m1.f32.ue8m0
    4x.f32.e2m1.e2m1.f32.ue4m3))) m16n8k16.row.col(bf16 f16(e4m3(e4m3.f16 e5m2.f16) e5m2(e4m3.f16
    e5m2.f16) f16) f32(e4m3(e4m3.f32 e5m2.f32) e5m2(e4m3.f32 e5m2.f32) f32) f64 s8!(u8)
    satfinite(s8!(u8) u8!(s8)) u8!(s8)) m16n8k32.row.col(f16(e4m3(e4m3.f16 e5m2.f16) e5m2(e4m3.f16
    e5m2.f16)) f32(e4m3(e4m3.f32 e5m2.f32) e5m2(e4m3.f32 e5m2.f32)) kind.f8f6f4(f16(e2m1(e2m1.f16
    e2m3.f16 e3m2.f16 e4m3.f16 e5m2.f16) e2m3(e2m1.f16 e2m3.f16 e3m2.f16 e4m3.f16 e5m2.f16)
    e3m2(e2m1.f16 e2m3.f16 e3m2.f16 e4m3.f16 e5m2.f16) e4m3(e2m1.f16 e2m3.f16 e3m2.f16 e4m3.f16
    e5m2.f16) e5m2(e2m1.f16 e2m3.f16 e3m2.f16 e4m3.f16 e5m2.f16)) f32(e2m1(e2m1.f32 e2m3.f32
    e3m2.f32 e4m3.f32 e5m2.f32) e2m3(e2m1.f32 e2m3.f32 e3m2.f32 e4m3.f32 e5m2.f32) e3m2(e2m1.f32
    e2m3.f32 e3m2.f32 e4m3.f32 e5m2.f32) e4m3(e2m1.f32 e2m3.f32 e3m2.f32 e4m3.f32 e5m2.f32)
    e5m2(e2m1.f32 e2m3.f32 e3m2.f32 e4m3.f32 e5m2.f32))) s4!(u4) s8!(u8) satfinite(s4!(u4) s8!(u8)
    u4!(s4) u8!(s8)) u4!(s4) u8!(s8)) m16n8k4.row.col(f64 tf32) m16n8k64.row.col(s4!(u4)
    satfinite(s4!(u4) u4!(s4)) u4!(s4)) m16n8k8.row.col(bf16 f16.f16 f32.f32 f64 tf32)
    m8n8k16.row.col(s8!(u8) satfinite(s8!(u8) u8!(s8)) u8!(s8)) m8n8k32.row.col(s4!(u4)
    satfinite(s4!(u4) u4!(s4)) u4!(s4)) m8n8k4(col(col(f16.f16 f32(f16 f32)) row(f16.f16 f32(f16
    f32))) row(col(f16.f16 f32(f16 f32) f64) row(f16.f16 f32(f16 f32))))
    sp(m16n8k128.row.col(s4!(u4) satfinite(s4!(u4) u4!(s4)) u4!(s4)) m16n8k16.row.col(bf16 f16.f16
    f32.f32 tf32) m16n8k32.row.col(bf16 f16.f16 f32.f32 s8!(u8) satfinite(s8!(u8) u8!(s8)) u8!(s8))
    m16n8k64.row.col(f32(e4m3(e4m3.f32 e5m2.f32) e5m2(e4m3.f32 e5m2.f32)) s4!(u4) s8!(u8)
    satfinite(s4!(u4) s8!(u8) u4!(s4) u8!(s8)) u4!(s4) u8!(s8)) m16n8k8.row.col.tf32
    ordered.metadata(block.scale(m16n8k128.row.col(mxf4(f32.e2m1.e2m1.f32.ue8m0
    scale.2x.f32.e2m1.e2m1.f32.ue8m0) mxf4nvf4.scale(2x.f32.e2m1.e2m1.f32.ue8m0
    4x.f32.e2m1.e2m1.f32.ue4m3)) m16n8k64.row.col.mxf8f6f4(f32(e2m1(e2m1.f32.ue8m0 e2m3.f32.ue8m0
    e3m2.f32.ue8m0 e4m3.f32.ue8m0 e5m2.f32.ue8m0) e2m3(e2m1.f32.ue8m0 e2m3.f32.ue8m0 e3m2.f32.ue8m0
    e4m3.f32.ue8m0 e5m2.f32.ue8m0) e3m2(e2m1.f32.ue8m0 e2m3.f32.ue8m0 e3m2.f32.ue8m0 e4m3.f32.ue8m0
    e5m2.f32.ue8m0) e4m3(e2m1.f32.ue8m0 e2m3.f32.ue8m0 e3m2.f32.ue8m0 e4m3.f32.ue8m0
    e5m2.f32.ue8m0) e5m2(e2m1.f32.ue8m0 e2m3.f32.ue8m0 e3m2.f32.ue8m0 e4m3.f32.ue8m0
    e5m2.f32.ue8m0)) scale.1x.f32(e2m1(e2m1.f32.ue8m0 e2m3.f32.ue8m0 e3m2.f32.ue8m0 e4m3.f32.ue8m0
    e5m2.f32.ue8m0) e2m3(e2m1.f32.ue8m0 e2m3.f32.ue8m0 e3m2.f32.ue8m0 e4m3.f32.ue8m0
    e5m2.f32.ue8m0) e3m2(e2m1.f32.ue8m0 e2m3.f32.ue8m0 e3m2.f32.ue8m0 e4m3.f32.ue8m0
    e5m2.f32.ue8m0) e4m3(e2m1.f32.ue8m0 e2m3.f32.ue8m0 e3m2.f32.ue8m0 e4m3.f32.ue8m0
    e5m2.f32.ue8m0) e5m2(e2m1.f32.ue8m0 e2m3.f32.ue8m0 e3m2.f32.ue8m0 e4m3.f32.ue8m0
    e5m2.f32.ue8m0)))) m16n8k128.row.col(s4!(u4) satfinite(s4!(u4) u4!(s4)) u4!(s4))
    m16n8k16.row.col(bf16 f16.f16 f32.f32 tf32) m16n8k32.row.col(bf16 f16.f16 f32.f32 s8!(u8)
    satfinite(s8!(u8) u8!(s8)) u8!(s8)) m16n8k64.row.col(f32(e4m3(e4m3.f32 e5m2.f32) e5m2(e4m3.f32
    e5m2.f32)) kind.f8f6f4(f16(e2m1(e2m1.f16 e2m3.f16 e3m2.f16 e4m3.f16 e5m2.f16) e2m3(e2m1.f16
    e2m3.f16 e3m2.f16 e4m3.f16 e5m2.f16) e3m2(e2m1.f16 e2m3.f16 e3m2.f16 e4m3.f16 e5m2.f16)
    e4m3(e2m1.f16 e2m3.f16 e3m2.f16 e4m3.f16 e5m2.f16) e5m2(e2m1.f16 e2m3.f16 e3m2.f16 e4m3.f16
    e5m2.f16)) f32(e2m1(e2m1.f32 e2m3.f32 e3m2.f32 e4m3.f32 e5m2.f32) e2m3(e2m1.f32 e2m3.f32
    e3m2.f32 e4m3.f32 e5m2.f32) e3m2(e2m1.f32 e2m3.f32 e3m2.f32 e4m3.f32 e5m2.f32) e4m3(e2m1.f32
    e2m3.f32 e3m2.f32 e4m3.f32 e5m2.f32) e5m2(e2m1.f32 e2m3.f32 e3m2.f32 e4m3.f32 e5m2.f32)))
    s4!(u4) s8!(u8) satfinite(s4!(u4) s8!(u8) u4!(s4) u8!(s8)) u4!(s4) u8!(s8))
    m16n8k8.row.col.tf32)) xor.popc(m16n8k128.row.col.b1 m16n8k256.row.col.b1 m8n8k128.row.col.b1))
    move(double=1 float i16 i32 i64 ptr*) mul(rm(d=2 f ftz.f) rn(d=2 f ftz.f) rp(d=2 f ftz.f)
    rz(d=2 f ftz.f)) mul24(i ui) mulhi(i ll s ui ull us) nanosleep neg(bf16 bf16x2) pm.event.mask
    prefetch(L1 L2 global(L1 L2!(evict(last normal))) local(L1 L2) tensormap*) prefetchu.L1
    prmt!(b4e ecl ecr f4e rc16 rc8) rcp(approx.ftz(d=1 f) rm(d=1 f ftz.f) rn(d=1 f ftz.f) rp(d=1 f
    ftz.f) rz(d=1 f ftz.f)) read.ptx.sreg(aggr_smem_size clock clock64 cluster(ctaid(w x y z)
    ctarank nctaid(w x y z) nctarank) clusterid(w x y z) ctaid(w x y z) dynamic_smem_size envreg0
    envreg1 envreg10 envreg11 envreg12 envreg13 envreg14 envreg15 envreg16 envreg17 envreg18
    envreg19 envreg2 envreg20 envreg21 envreg22 envreg23 envreg24 envreg25 envreg26 envreg27
    envreg28 envreg29 envreg3 envreg30 envreg31 envreg4 envreg5 envreg6 envreg7 envreg8 envreg9
    globaltimer!(lo) gridid laneid lanemask(eq ge gt le lt) nclusterid(w x y z) nctaid(w x y z)
    nsmid ntid(w x y z) nwarpid pm0 pm1 pm2 pm3 smid tid(w x y z) total_smem_size warpid warpsize)
    redux.sync(add and fmax!(NaN abs!(NaN)) fmin!(NaN abs!(NaN)) max min or umax umin xor) reflect
    round(d=1 f ftz.f) rsqrt.approx(d=1 f ftz(d=1 f)) sad(i ll s ui ull us) saturate(d=1 f ftz.f)
    setmaxnreg(dec.sync.aligned.u32 inc.sync.aligned.u32) sext(clamp wrap) shfl(bfly(f32 f32p i32
    i32p) down(f32 f32p i32 i32p) idx(f32 f32p i32 i32p) sync(bfly(f32 f32p i32 i32p) down(f32 f32p
    i32 i32p) idx(f32 f32p i32 i32p) up(f32 f32p i32 i32p)) up(f32 f32p i32 i32p)) sin.approx(f
    ftz.f) sqrt(approx(f ftz.f) f rm(d=1 f ftz.f) rn(d=1 f ftz.f) rp(d=1 f ftz.f) rz(d=1 f ftz.f))
    st.bulk!(shared.cta) stmatrix.sync.aligned(m16n8(x1.trans.b8* x2.trans.b8* x4.trans.b8*)
    m8n8(x1(b16* trans.b16*) x2(b16* trans.b16*) x4(b16* trans.b16*))) suld(1d(array(i16(clamp trap
    zero) i32(clamp trap zero) i64(clamp trap zero) i8(clamp trap zero) v2i16(clamp trap zero)
    v2i32(clamp trap zero) v2i64(clamp trap zero) v2i8(clamp trap zero) v4i16(clamp trap zero)
    v4i32(clamp trap zero) v4i8(clamp trap zero)) i16(clamp trap zero) i32(clamp trap zero)
    i64(clamp trap zero) i8(clamp trap zero) v2i16(clamp trap zero) v2i32(clamp trap zero)
    v2i64(clamp trap zero) v2i8(clamp trap zero) v4i16(clamp trap zero) v4i32(clamp trap zero)
    v4i8(clamp trap zero)) 2d(array(i16(clamp trap zero) i32(clamp trap zero) i64(clamp trap zero)
    i8(clamp trap zero) v2i16(clamp trap zero) v2i32(clamp trap zero) v2i64(clamp trap zero)
    v2i8(clamp trap zero) v4i16(clamp trap zero) v4i32(clamp trap zero) v4i8(clamp trap zero))
    i16(clamp trap zero) i32(clamp trap zero) i64(clamp trap zero) i8(clamp trap zero) v2i16(clamp
    trap zero) v2i32(clamp trap zero) v2i64(clamp trap zero) v2i8(clamp trap zero) v4i16(clamp trap
    zero) v4i32(clamp trap zero) v4i8(clamp trap zero)) 3d(i16(clamp trap zero) i32(clamp trap
    zero) i64(clamp trap zero) i8(clamp trap zero) v2i16(clamp trap zero) v2i32(clamp trap zero)
    v2i64(clamp trap zero) v2i8(clamp trap zero) v4i16(clamp trap zero) v4i32(clamp trap zero)
    v4i8(clamp trap zero))) suq(array.size channel(data.type order) depth height width)
    sust(b(1d(array(i16(clamp trap zero) i32(clamp trap zero) i64(clamp trap zero) i8(clamp trap
    zero) v2i16(clamp trap zero) v2i32(clamp trap zero) v2i64(clamp trap zero) v2i8(clamp trap
    zero) v4i16(clamp trap zero) v4i32(clamp trap zero) v4i8(clamp trap zero)) i16(clamp trap zero)
    i32(clamp trap zero) i64(clamp trap zero) i8(clamp trap zero) v2i16(clamp trap zero)
    v2i32(clamp trap zero) v2i64(clamp trap zero) v2i8(clamp trap zero) v4i16(clamp trap zero)
    v4i32(clamp trap zero) v4i8(clamp trap zero)) 2d(array(i16(clamp trap zero) i32(clamp trap
    zero) i64(clamp trap zero) i8(clamp trap zero) v2i16(clamp trap zero) v2i32(clamp trap zero)
    v2i64(clamp trap zero) v2i8(clamp trap zero) v4i16(clamp trap zero) v4i32(clamp trap zero)
    v4i8(clamp trap zero)) i16(clamp trap zero) i32(clamp trap zero) i64(clamp trap zero) i8(clamp
    trap zero) v2i16(clamp trap zero) v2i32(clamp trap zero) v2i64(clamp trap zero) v2i8(clamp trap
    zero) v4i16(clamp trap zero) v4i32(clamp trap zero) v4i8(clamp trap zero)) 3d(i16(clamp trap
    zero) i32(clamp trap zero) i64(clamp trap zero) i8(clamp trap zero) v2i16(clamp trap zero)
    v2i32(clamp trap zero) v2i64(clamp trap zero) v2i8(clamp trap zero) v4i16(clamp trap zero)
    v4i32(clamp trap zero) v4i8(clamp trap zero))) p(1d(array(i16.trap i32.trap i8.trap v2i16.trap
    v2i32.trap v2i8.trap v4i16.trap v4i32.trap v4i8.trap) i16.trap i32.trap i8.trap v2i16.trap
    v2i32.trap v2i8.trap v4i16.trap v4i32.trap v4i8.trap) 2d(array(i16.trap i32.trap i8.trap
    v2i16.trap v2i32.trap v2i8.trap v4i16.trap v4i32.trap v4i8.trap) i16.trap i32.trap i8.trap
    v2i16.trap v2i32.trap v2i8.trap v4i16.trap v4i32.trap v4i8.trap) 3d(i16.trap i32.trap i8.trap
    v2i16.trap v2i32.trap v2i8.trap v4i16.trap v4i32.trap v4i8.trap))) tcgen05(alloc(cg1 cg2
    shared(cg1 cg2)) commit(cg1 cg2 mc(cg1 cg2 shared(cg1 cg2)) shared(cg1 cg2))
    cp(128x128b(b4x16_p64(cg1 cg2) b6x16_p32(cg1 cg2) cg1 cg2) 128x256b(b4x16_p64(cg1 cg2)
    b6x16_p32(cg1 cg2) cg1 cg2) 32x128b_warpx4(b4x16_p64(cg1 cg2) b6x16_p32(cg1 cg2) cg1 cg2)
    4x256b(b4x16_p64(cg1 cg2) b6x16_p32(cg1 cg2) cg1 cg2) 64x128b_warpx2_01_23(b4x16_p64(cg1 cg2)
    b6x16_p32(cg1 cg2) cg1 cg2) 64x128b_warpx2_02_13(b4x16_p64(cg1 cg2) b6x16_p32(cg1 cg2) cg1
    cg2)) dealloc(cg1 cg2) fence(after.thread.sync before.thread.sync) ld(16x128b(x1 x16 x2 x32 x4
    x64 x8) 16x256b(x1 x16 x2 x32 x4 x8) 16x32bx2(x1 x128 x16 x2 x32 x4 x64 x8) 16x64b(x1 x128 x16
    x2 x32 x4 x64 x8) 32x32b(x1 x128 x16 x2 x32 x4 x64 x8)) mma(shared!(disable_output_lane(cg1
    cg2) mxf4.block_scale!(block32) mxf4nvf4.block_scale(block16 block32)
    mxf8f6f4.block_scale!(block32) scale_d!(disable_output_lane(cg1 cg2)))
    sp(shared!(disable_output_lane(cg1 cg2) mxf4.block_scale!(block32) mxf4nvf4.block_scale(block16
    block32) mxf8f6f4.block_scale!(block32) scale_d!(disable_output_lane(cg1 cg2))) tensor!(ashift
    disable_output_lane(cg1!(ashift) cg2!(ashift)) mxf4.block_scale!(block32)
    mxf4nvf4.block_scale(block16 block32) mxf8f6f4.block_scale!(block32) scale_d!(ashift
    disable_output_lane(cg1!(ashift) cg2!(ashift))))) tensor!(ashift
    disable_output_lane(cg1!(ashift) cg2!(ashift)) mxf4.block_scale!(block32)
    mxf4nvf4.block_scale(block16 block32) mxf8f6f4.block_scale!(block32) scale_d!(ashift
    disable_output_lane(cg1!(ashift) cg2!(ashift)))) ws(shared!(zero_col_mask)
    sp(shared!(zero_col_mask) tensor!(zero_col_mask)) tensor!(zero_col_mask)))
    relinq.alloc.permit(cg1 cg2) shift.down(cg1 cg2) st(16x128b(x1 x16 x2 x32 x4 x64 x8) 16x256b(x1
    x16 x2 x32 x4 x8) 16x32bx2(x1 x128 x16 x2 x32 x4 x64 x8) 16x64b(x1 x128 x16 x2 x32 x4 x64 x8)
    32x32b(x1 x128 x16 x2 x32 x4 x64 x8)) wait(ld st)) tensormap.replace(box.dim* element.stride*
    elemtype* fill.mode* global(address* dim* stride*) interleave.layout* rank* swizzle(atomicity*
    mode*)) tex(1d(array(grad(v4f32.f32 v4s32.f32 v4u32.f32) level(v4f32.f32 v4s32.f32 v4u32.f32)
    v4f32(f32 s32) v4s32(f32 s32) v4u32(f32 s32)) grad(v4f32.f32 v4s32.f32 v4u32.f32)
    level(v4f32.f32 v4s32.f32 v4u32.f32) v4f32(f32 s32) v4s32(f32 s32) v4u32(f32 s32))
    2d(array(grad(v4f32.f32 v4s32.f32 v4u32.f32) level(v4f32.f32 v4s32.f32 v4u32.f32) v4f32(f32
    s32) v4s32(f32 s32) v4u32(f32 s32)) grad(v4f32.f32 v4s32.f32 v4u32.f32) level(v4f32.f32
    v4s32.f32 v4u32.f32) v4f32(f32 s32) v4s32(f32 s32) v4u32(f32 s32)) 3d(grad(v4f32.f32 v4s32.f32
    v4u32.f32) level(v4f32.f32 v4s32.f32 v4u32.f32) v4f32(f32 s32) v4s32(f32 s32) v4u32(f32 s32))
    cube(array(level(v4f32.f32 v4s32.f32 v4u32.f32) v4f32.f32 v4s32.f32 v4u32.f32) level(v4f32.f32
    v4s32.f32 v4u32.f32) v4f32.f32 v4s32.f32 v4u32.f32) unified(1d(array(grad(v4f32.f32 v4s32.f32
    v4u32.f32) level(v4f32.f32 v4s32.f32 v4u32.f32) v4f32(f32 s32) v4s32(f32 s32) v4u32(f32 s32))
    grad(v4f32.f32 v4s32.f32 v4u32.f32) level(v4f32.f32 v4s32.f32 v4u32.f32) v4f32(f32 s32)
    v4s32(f32 s32) v4u32(f32 s32)) 2d(array(grad(v4f32.f32 v4s32.f32 v4u32.f32) level(v4f32.f32
    v4s32.f32 v4u32.f32) v4f32(f32 s32) v4s32(f32 s32) v4u32(f32 s32)) grad(v4f32.f32 v4s32.f32
    v4u32.f32) level(v4f32.f32 v4s32.f32 v4u32.f32) v4f32(f32 s32) v4s32(f32 s32) v4u32(f32 s32))
    3d(grad(v4f32.f32 v4s32.f32 v4u32.f32) level(v4f32.f32 v4s32.f32 v4u32.f32) v4f32(f32 s32)
    v4s32(f32 s32) v4u32(f32 s32)) cube(array(grad(v4f32.f32 v4s32.f32 v4u32.f32) level(v4f32.f32
    v4s32.f32 v4u32.f32) v4f32.f32 v4s32.f32 v4u32.f32) grad(v4f32.f32 v4s32.f32 v4u32.f32)
    level(v4f32.f32 v4s32.f32 v4u32.f32) v4f32.f32 v4s32.f32 v4u32.f32)))
    texsurf.handle*(internal*) tld4(a.2d(v4f32.f32 v4s32.f32 v4u32.f32) b.2d(v4f32.f32 v4s32.f32
    v4u32.f32) g.2d(v4f32.f32 v4s32.f32 v4u32.f32) r.2d(v4f32.f32 v4s32.f32 v4u32.f32)
    unified(a.2d(v4f32.f32 v4s32.f32 v4u32.f32) b.2d(v4f32.f32 v4s32.f32 v4u32.f32) g.2d(v4f32.f32
    v4s32.f32 v4u32.f32) r.2d(v4f32.f32 v4s32.f32 v4u32.f32))) trunc(d=1 f ftz.f) txq(array.size
    channel(data.type order) depth height num(mipmap.levels samples) width) ue8m0x2.to.bf16x2
    ui2d(rm rn rp rz) ui2f(rm rn rp rz) ull2d(rm rn rp rz) ull2f(rm rn rp rz) vote(all!(sync)
    any!(sync) ballot!(sync) uni!(sync)) wgmma(commit_group.sync.aligned fence.sync.aligned
    wait_group.sync.aligned) wmma(m16n16k16(load(a(col(bf16* f16* s8* stride(bf16* f16* s8* u8*)
    u8*) row(bf16* f16* s8* stride(bf16* f16* s8* u8*) u8*)) b(col(bf16* f16* s8* stride(bf16* f16*
    s8* u8*) u8*) row(bf16* f16* s8* stride(bf16* f16* s8* u8*) u8*)) c(col(f16* f32* s32*
    stride(f16* f32* s32*)) row(f16* f32* s32* stride(f16* f32* s32*)))) mma(col(col(bf16
    f16(f16!(satfinite) f32!(satfinite)) f32(f16!(satfinite) f32!(satfinite)) s8!(satfinite)
    u8!(satfinite)) row(bf16 f16(f16!(satfinite) f32!(satfinite)) f32(f16!(satfinite)
    f32!(satfinite)) s8!(satfinite) u8!(satfinite))) row(col(bf16 f16(f16!(satfinite)
    f32!(satfinite)) f32(f16!(satfinite) f32!(satfinite)) s8!(satfinite) u8!(satfinite)) row(bf16
    f16(f16!(satfinite) f32!(satfinite)) f32(f16!(satfinite) f32!(satfinite)) s8!(satfinite)
    u8!(satfinite)))) store.d(col(f16* f32* s32* stride(f16* f32* s32*)) row(f16* f32* s32*
    stride(f16* f32* s32*)))) m16n16k8(load(a(col(stride.tf32* tf32*) row(stride.tf32* tf32*))
    b(col(stride.tf32* tf32*) row(stride.tf32* tf32*)) c(col(f32* stride.f32*) row(f32*
    stride.f32*))) mma(col(col.tf32 row.tf32) row(col.tf32 row.tf32)) store.d(col(f32* stride.f32*)
    row(f32* stride.f32*))) m32n8k16(load(a(col(bf16* f16* s8* stride(bf16* f16* s8* u8*) u8*)
    row(bf16* f16* s8* stride(bf16* f16* s8* u8*) u8*)) b(col(bf16* f16* s8* stride(bf16* f16* s8*
    u8*) u8*) row(bf16* f16* s8* stride(bf16* f16* s8* u8*) u8*)) c(col(f16* f32* s32* stride(f16*
    f32* s32*)) row(f16* f32* s32* stride(f16* f32* s32*)))) mma(col(col(bf16 f16(f16!(satfinite)
    f32!(satfinite)) f32(f16!(satfinite) f32!(satfinite)) s8!(satfinite) u8!(satfinite)) row(bf16
    f16(f16!(satfinite) f32!(satfinite)) f32(f16!(satfinite) f32!(satfinite)) s8!(satfinite)
    u8!(satfinite))) row(col(bf16 f16(f16!(satfinite) f32!(satfinite)) f32(f16!(satfinite)
    f32!(satfinite)) s8!(satfinite) u8!(satfinite)) row(bf16 f16(f16!(satfinite) f32!(satfinite))
    f32(f16!(satfinite) f32!(satfinite)) s8!(satfinite) u8!(satfinite)))) store.d(col(f16* f32*
    s32* stride(f16* f32* s32*)) row(f16* f32* s32* stride(f16* f32* s32*))))
    m8n32k16(load(a(col(bf16* f16* s8* stride(bf16* f16* s8* u8*) u8*) row(bf16* f16* s8*
    stride(bf16* f16* s8* u8*) u8*)) b(col(bf16* f16* s8* stride(bf16* f16* s8* u8*) u8*) row(bf16*
    f16* s8* stride(bf16* f16* s8* u8*) u8*)) c(col(f16* f32* s32* stride(f16* f32* s32*)) row(f16*
    f32* s32* stride(f16* f32* s32*)))) mma(col(col(bf16 f16(f16!(satfinite) f32!(satfinite))
    f32(f16!(satfinite) f32!(satfinite)) s8!(satfinite) u8!(satfinite)) row(bf16
    f16(f16!(satfinite) f32!(satfinite)) f32(f16!(satfinite) f32!(satfinite)) s8!(satfinite)
    u8!(satfinite))) row(col(bf16 f16(f16!(satfinite) f32!(satfinite)) f32(f16!(satfinite)
    f32!(satfinite)) s8!(satfinite) u8!(satfinite)) row(bf16 f16(f16!(satfinite) f32!(satfinite))
    f32(f16!(satfinite) f32!(satfinite)) s8!(satfinite) u8!(satfinite)))) store.d(col(f16* f32*
    s32* stride(f16* f32* s32*)) row(f16* f32* s32* stride(f16* f32* s32*))))
    m8n8k128(load(a.row(b1* stride.b1*) b.col(b1* stride.b1*) c(col(s32* stride.s32*) row(s32*
    stride.s32*))) mma(and.popc.row.col.b1 xor.popc.row.col.b1) store.d(col(s32* stride.s32*)
    row(s32* stride.s32*))) m8n8k32(load(a.row(s4* stride(s4* u4*) u4*) b.col(s4* stride(s4* u4*)
    u4*) c(col(s32* stride.s32*) row(s32* stride.s32*))) mma.row.col(s4!(satfinite) u4!(satfinite))
    store.d(col(s32* stride.s32*) row(s32* stride.s32*))) m8n8k4(load(a(col(f64* stride.f64*)
    row(f64* stride.f64*)) b(col(f64* stride.f64*) row(f64* stride.f64*)) c(col(f64* stride.f64*)
    row(f64* stride.f64*))) mma(col(col(f64 rm.f64 rn.f64 rp.f64 rz.f64) row(f64 rm.f64 rn.f64
    rp.f64 rz.f64)) row(col(f64 rm.f64 rn.f64 rp.f64 rz.f64) row(f64 rm.f64 rn.f64 rp.f64 rz.f64)))
    store.d(col(f64* stride.f64*) row(f64* stride.f64*)))) zext(clamp wrap))"

end Reckoner.Llvm.Intrinsic.Table
