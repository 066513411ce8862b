/-! Names that start with `aarch64`, in the form that `Listing` reads. -/
namespace Reckoner.Llvm.Intrinsic.Table

def aArch64 : String :=
  "aarch64(addg break chkfeat clrex cls cls64 crc32b crc32cb crc32ch crc32cw crc32cx crc32h crc32w
    crc32x crypto(aesd aese aesimc aesmc bcaxs* bcaxu* eor3s* eor3u* rax1 sha1c sha1h sha1m sha1p
    sha1su0 sha1su1 sha256h sha256h2 sha256su0 sha256su1 sha512h sha512h2 sha512su0 sha512su1
    sm3partw1 sm3partw2 sm3ss1 sm3tt1a sm3tt1b sm3tt2a sm3tt2b sm4e sm4ekey xar) dmb dsb fjcvtzs
    frint32x*=1 frint32z*=1 frint64x*=1 frint64z*=1 gcspopm gcsss get(fpcr fpsr) gmi hint hlt
    irg!(sp) isb ld64b ldaxp ldaxr* ldg ldxp ldxr* mops.memset.tag neon(abs*=1 addhn* addp* bfdot*
    bfmlalb bfmlalt bfmmla cls* fabd* facge* facgt* faddp* faddv* famax* famin* fcvtas* fcvtau*
    fcvtms* fcvtmu* fcvtns* fcvtnu* fcvtps* fcvtpu* fcvtxn* fcvtzs* fcvtzu* fmax*=2 fmaxnm*=2
    fmaxnmp* fmaxnmv* fmaxp* fmaxv* fmin*=2 fminnm*=2 fminnmp* fminnmv* fminp* fminv* fmlal*
    fmlal2* fmlsl* fmlsl2* fmmla* fmulx*=2 fp8(cvtl1* cvtl2* fcvtn* fcvtn2* fdot2*(lane*)
    fdot4*(lane*) fmlalb*(lane*) fmlallbb*(lane*) fmlallbt*(lane*) fmlalltb*(lane*)
    fmlalltt*(lane*) fmlalt*(lane*) fscale*) frecpe*=1 frecps*=2 frecpx*=1 frint32x*=1 frint32z*=1
    frint64x*=1 frint64z*=1 frsqrte*=1 frsqrts*=2 ld1x2* ld1x3* ld1x4* ld2* ld2lane* ld2r* ld3*
    ld3lane* ld3r* ld4* ld4lane* ld4r* pmul* pmull* pmull64 raddhn* rshrn* rsubhn* sabd* saddlp*
    saddlv* saddv* scalar(sqxtn**=1 sqxtun**=1 uqxtn**=1) sdot* shadd* shll* shsub* smax* smaxp*
    smaxv* smin* sminp* sminv* smmla* smull* sqabs* sqadd* sqdmulh*(lane* laneq*) sqdmull*
    sqdmulls.scalar sqneg* sqrdmlah* sqrdmlsh* sqrdmulh*(lane* laneq*) sqrshl* sqrshrn* sqrshrun*
    sqshl* sqshlu* sqshrn* sqshrun* sqsub* sqxtn* sqxtun* srhadd* srshl* sshl* sshll* st1x2* st1x3*
    st1x4* st2* st2lane* st3* st3lane* st4* st4lane* subhn* suqadd* tbl1* tbl2* tbl3* tbl4* tbx1*
    tbx2* tbx3* tbx4* uabd* uaddlp* uaddlv* uaddv* udot* uhadd* uhsub* umax* umaxp* umaxv* umin*
    uminp* uminv* ummla* umull* uqadd* uqrshl* uqrshrn* uqshl* uqshrn* uqsub* uqxtn* urecpe*
    urhadd* urshl* ursqrte* usdot* ushl* ushll* usmmla* usqadd* vcadd(rot270* rot90*) vcmla(rot0*
    rot180* rot270* rot90*) vcopy.lane* vcvtfp2fxs* vcvtfp2fxu* vcvtfp2hf vcvtfxs2fp* vcvtfxu2fp*
    vcvthf2fp vluti2(lane* laneq*) vluti4q(lane*(x2*) laneq*(x2*)) vsli* vsri*) prefetch
    range.prefetch rndr rndrrs sdiv* set(fpcr fpmr fpsr) settag!(zero) sisd(fabd*=2 fcvtxn)
    sme(add(write(single.za(vg1x2* vg1x4*) za(vg1x2* vg1x4*)) za16(vg1x2* vg1x4*) za32(vg1x2*
    vg1x4*) za64(vg1x2* vg1x4*)) addha* addva* bmopa.za32* bmops.za32* cntsd famax(x2* x4*)
    famin(x2* x4*) fdot(lane.za32(vg1x2* vg1x4*) single.za32(vg1x2* vg1x4*) za32(vg1x2* vg1x4*))
    fmla(lane(vg1x2* vg1x4*) single(vg1x2* vg1x4*) vg1x2* vg1x4*) fmlal(lane(vg2x1* vg2x2* vg2x4*)
    single(vg2x1* vg2x2* vg2x4*) vg2x2* vg2x4*) fmls(lane(vg1x2* vg1x4*) single(vg1x2* vg1x4*)
    vg1x2* vg1x4*) fmlsl(lane(vg2x1* vg2x2* vg2x4*) single(vg2x1* vg2x2* vg2x4*) vg2x2* vg2x4*)
    fp8(fdot(lane(za16(vg1x2 vg1x4) za32(vg1x2 vg1x4)) multi(za16(vg1x2 vg1x4) za32(vg1x2 vg1x4))
    single(za16(vg1x2 vg1x4) za32(vg1x2 vg1x4))) fmlal(lane.za16(vg2x1 vg2x2 vg2x4)
    multi.za16(vg2x2 vg2x4) single.za16(vg2x2 vg2x4) za16.vg2x1) fmlall(lane.za32(vg4x1 vg4x2
    vg4x4) multi.za32(vg4x2 vg4x4) single.za32(vg4x2 vg4x4) za32.vg4x1) fmop4a(za16(1x1* 1x2* 2x1*
    2x2*) za32(1x1* 1x2* 2x1* 2x2*)) fmopa(za16 za32) fvdot.lane.za16.vg1x2 fvdotb.lane.za32.vg1x4
    fvdott.lane.za32.vg1x4 scale(single(x2* x4*) x2* x4*)) ftmopa(za16* za32*)
    fvdot.lane.za32.vg1x2* get.tpidr2 in.streaming.mode ld1b(horiz vert) ld1d(horiz vert)
    ld1h(horiz vert) ld1q(horiz vert) ld1w(horiz vert) ldr!(zt) luti2.lane.zt*(x2* x4*)
    luti4(lane.zt*(x2* x4*) zt.x4*) mop4a(1x1* 1x2* 2x1* 2x2* wide(1x1* 1x2* 2x1* 2x2*)) mop4s(1x1*
    1x2* 2x1* 2x2* wide(1x1* 1x2* 2x1* 2x2*)) mopa*(nonwide* wide*) mops*(nonwide* wide*)
    read(hor(vg2* vg4*) horiz* ver(vg2* vg4*) vert* vg1x2* vg1x4*) readq(horiz* vert*)
    readz(horiz*(x2* x4*) q(horiz* vert*) vert*(x2* x4*) x2* x4*) sdot(lane(za32(vg1x2* vg1x4*)
    za64(vg1x2* vg1x4*)) single(za32(vg1x2* vg1x4*) za64(vg1x2* vg1x4*)) za32(vg1x2* vg1x4*)
    za64(vg1x2* vg1x4*)) set.tpidr2 smla(za32(lane(vg4x1* vg4x2* vg4x4*) single(vg4x1* vg4x2*
    vg4x4*) vg4x2* vg4x4*) za64(lane(vg4x1* vg4x2* vg4x4*) single(vg4x1* vg4x2* vg4x4*) vg4x2*
    vg4x4*)) smlal(lane(vg2x1* vg2x2* vg2x4*) single(vg2x1* vg2x2* vg2x4*) vg2x2* vg2x4*)
    smls(za32(lane(vg4x1* vg4x2* vg4x4*) single(vg4x1* vg4x2* vg4x4*) vg4x2* vg4x4*)
    za64(lane(vg4x1* vg4x2* vg4x4*) single(vg4x1* vg4x2* vg4x4*) vg4x2* vg4x4*)) smlsl(lane(vg2x1*
    vg2x2* vg2x4*) single(vg2x1* vg2x2* vg2x4*) vg2x2* vg2x4*) smop4a(wide(1x1* 1x2* 2x1* 2x2*)
    za64.wide(1x1* 1x2* 2x1* 2x2*)) smop4s(wide(1x1* 1x2* 2x1* 2x2*) za64.wide(1x1* 1x2* 2x1*
    2x2*)) smopa(wide* za32*) smops(wide* za32*) st1b(horiz vert) st1d(horiz vert) st1h(horiz vert)
    st1q(horiz vert) st1w(horiz vert) stmopa.za32* str!(zt) sub(write(single.za(vg1x2* vg1x4*)
    za(vg1x2* vg1x4*)) za16(vg1x2* vg1x4*) za32(vg1x2* vg1x4*) za64(vg1x2* vg1x4*))
    sudot(lane.za32(vg1x2* vg1x4*) single.za32(vg1x2* vg1x4*)) sumla.za32(lane(vg4x1* vg4x2*
    vg4x4*) single(vg4x2* vg4x4*)) sumop4a(wide(1x1* 1x2* 2x1* 2x2*) za64.wide(1x1* 1x2* 2x1*
    2x2*)) sumop4s(wide(1x1* 1x2* 2x1* 2x2*) za64.wide(1x1* 1x2* 2x1* 2x2*)) sumopa.wide*
    sumops.wide* sutmopa.za32* suvdot.lane.za32.vg1x4* svdot.lane(za32(vg1x2* vg1x4*) za64.vg1x4*)
    udot(lane(za32(vg1x2* vg1x4*) za64(vg1x2* vg1x4*)) single(za32(vg1x2* vg1x4*) za64(vg1x2*
    vg1x4*)) za32(vg1x2* vg1x4*) za64(vg1x2* vg1x4*)) umla(za32(lane(vg4x1* vg4x2* vg4x4*)
    single(vg4x1* vg4x2* vg4x4*) vg4x2* vg4x4*) za64(lane(vg4x1* vg4x2* vg4x4*) single(vg4x1*
    vg4x2* vg4x4*) vg4x2* vg4x4*)) umlal(lane(vg2x1* vg2x2* vg2x4*) single(vg2x1* vg2x2* vg2x4*)
    vg2x2* vg2x4*) umls(za32(lane(vg4x1* vg4x2* vg4x4*) single(vg4x1* vg4x2* vg4x4*) vg4x2* vg4x4*)
    za64(lane(vg4x1* vg4x2* vg4x4*) single(vg4x1* vg4x2* vg4x4*) vg4x2* vg4x4*)) umlsl(lane(vg2x1*
    vg2x2* vg2x4*) single(vg2x1* vg2x2* vg2x4*) vg2x2* vg2x4*) umop4a(wide(1x1* 1x2* 2x1* 2x2*)
    za64.wide(1x1* 1x2* 2x1* 2x2*)) umop4s(wide(1x1* 1x2* 2x1* 2x2*) za64.wide(1x1* 1x2* 2x1*
    2x2*)) umopa(wide* za32*) umops(wide* za32*) usdot(lane.za32(vg1x2* vg1x4*) single.za32(vg1x2*
    vg1x4*) za32(vg1x2* vg1x4*)) usmla.za32(lane(vg4x1* vg4x2* vg4x4*) single(vg4x1* vg4x2* vg4x4*)
    vg4x2* vg4x4*) usmop4a(wide(1x1* 1x2* 2x1* 2x2*) za64.wide(1x1* 1x2* 2x1* 2x2*))
    usmop4s(wide(1x1* 1x2* 2x1* 2x2*) za64.wide(1x1* 1x2* 2x1* 2x2*)) usmopa.wide* usmops.wide*
    ustmopa.za32* usvdot.lane.za32.vg1x4* utmopa.za32* uvdot.lane(za32(vg1x2* vg1x4*) za64.vg1x4*)
    write(hor(vg2* vg4*) horiz* lane.zt* ver(vg2* vg4*) vert* vg1x2* vg1x4* zt*) writeq(horiz*
    vert*) za(disable enable) zero!(za64(vg1x2 vg1x4 vg2x1 vg2x2 vg2x4 vg4x1 vg4x2 vg4x4) zt))
    space st64b st64bv st64bv0 stg stgp stlxp stlxr* stxp stxr* subp sve(abs* adclb* adclt*
    add*(single(x2* x4*) u*) addhnb* addhnt* addp* addqv* adrb* adrd* adrh* adrw* aesd!(lane(x2
    x4)) aesdimc.lane(x2 x4) aese!(lane(x2 x4)) aesemc.lane(x2 x4) aesimc aesmc and*(u* z*) andqv*
    andv* asr*(u* wide*) asrd* bcax* bdep.x* bext.x* bfclamp.single(x2* x4*) bfcvt.x2 bfcvtn.x2
    bfdot!(lane.v2) bfmlalb!(lane.v2) bfmlalt!(lane.v2) bfmlslb!(lane) bfmlslt!(lane) bfmmla
    bgrp.x* bic*(u* z*) brka*(z*) brkb*(z*) brkn.z* brkpa.z* brkpb.z* bsl* bsl1n* bsl2n* cadd.x*
    cdot*(lane*) clasta*(n*) clastb*(n*) cls* clz* cmla(lane.x* x*) cmpeq*(wide*) cmpge*(wide*)
    cmpgt*(wide*) cmphi*(wide*) cmphs*(wide*) cmple.wide* cmplo.wide* cmpls.wide* cmplt.wide*
    cmpne*(wide*) cnot* cnt* cntb cntd cnth cntp*(c16 c32 c64 c8) cntw compact*
    convert(from.svbool* to.svbool*) dup*(laneq* x*) dupq.lane* eor*(u* z*) eor3* eorbt* eorqv*
    eortb* eorv* expand* ext* extq* fabd*(u*) fabs* facge* facgt* fadd*(u*) fadda* faddp* faddqv*
    faddv* famax*(u*) famin*(u*) fcadd* fclamp*(single(x2* x4*)) fcmla*(lane*) fcmpeq* fcmpge*
    fcmpgt* fcmpne* fcmpuo* fcvt*(bf16f32.v2 f16f32 f16f64 f32f16 f32f64 f64f16 f64f32 widen.x2*
    x2*) fcvtl.widen.x2* fcvtlt(f32f16 f64f32) fcvtn.x2* fcvtnt(bf16f32.v2 f16f32 f32f64 z(bf16f32
    f16f32 f32f64)) fcvtx.f32f64 fcvtxnt(f32f64 z.f32f64) fcvtzs*(i32f16 i32f64 i64f16 i64f32 x2*
    x4*) fcvtzu*(i32f16 i32f64 i64f16 i64f32 x2* x4*) fdiv*(u*) fdivr* fdot(lane.x2* x2*) fexpa.x*
    firstp* flogb* fmad* fmax*(single(x2* x4*) u* x2* x4*) fmaxnm*(single(x2* x4*) u* x2* x4*)
    fmaxnmp* fmaxnmqv* fmaxnmv* fmaxp* fmaxqv* fmaxv* fmin*(single(x2* x4*) u* x2* x4*)
    fminnm*(single(x2* x4*) u* x2* x4*) fminnmp* fminnmqv* fminnmv* fminp* fminqv* fminv*
    fmla*(lane* u*) fmlalb*(lane*) fmlalt*(lane*) fmls*(lane* u*) fmlslb*(lane*) fmlslt*(lane*)
    fmmla* fmsb* fmul*(lane* single(x2* x4*) u* x2* x4*) fmulx*(u*) fneg* fnmad* fnmla*(u*)
    fnmls*(u*) fnmsb* fp8(cvt(x2* x4) cvt1*(x2*) cvt2*(x2*) cvtl1.x2* cvtl2.x2* cvtlt1* cvtlt2*
    cvtn*(x4) cvtnb* cvtnt* fdot*(lane*) fmlalb*(lane*) fmlallbb*(lane*) fmlallbt*(lane*)
    fmlalltb*(lane*) fmlalltt*(lane*) fmlalt*(lane*) fmmla*) frecpe.x* frecps.x* frecpx* frint32x*
    frint32z* frint64x* frint64z* frinta*(x2* x4*) frinti* frintm*(x2* x4*) frintn*(x2* x4*)
    frintp*(x2* x4*) frintx* frintz* frsqrte.x* frsqrts.x* fscale*(single(x2* x4*) x2* x4*) fsqrt*
    fsub*(u*) fsubr* ftmad.x* ftsmul.x* ftssel.x* histcnt* histseg* index* insr* lasta* lastb*
    lastp* ld1*(gather*(index* scalar.offset* sxtw*(index*) uxtw*(index*)) pn(x2* x4*))
    ld1q.gather(index* scalar.offset* vector.offset*) ld1ro* ld1rq* ld1udq* ld1uwq* ld2.sret*
    ld2q.sret* ld3.sret* ld3q.sret* ld4.sret* ld4q.sret* ldff1*(gather*(index* scalar.offset*
    sxtw*(index*) uxtw*(index*))) ldnf1* ldnt1*(gather*(index* scalar.offset* uxtw*) pn(x2* x4*))
    lsl*(u* wide*) lsr*(u* wide*) luti2.lane* luti4.lane*(x2*) mad* match* mla*(lane* u*)
    mls*(lane* u*) msb* mul*(lane* u*) nand.z* nbsl* neg* nmatch* nor.z* not* orn.z* orqv* orr*(u*
    z*) orv* pext*(x2*) pfirst* pmlal.pair.x2 pmov.to(pred.lane*(zero*) vector.lane(merging*
    zeroing*)) pmul* pmull.pair.x2 pmullb.pair* pmullt.pair* pnext* prf* prfb.gather(index*
    scalar.offset* sxtw.index* uxtw.index*) prfd.gather(index* scalar.offset* sxtw.index*
    uxtw.index*) prfh.gather(index* scalar.offset* sxtw.index* uxtw.index*) prfw.gather(index*
    scalar.offset* sxtw.index* uxtw.index*) psel* ptest(any* first* last*) ptrue*(c16 c32 c64 c8)
    punpkhi* punpklo* raddhnb* raddhnt* rax1 rbit* rdffr!(z) rev(b16 b32 b64) revb* revd* revh*
    revw* rshrnb* rshrnt* rsubhnb* rsubhnt* saba* sabalb* sabalt* sabd*(u*) sabdlb* sabdlt* sadalp*
    saddlb* saddlbt* saddlt* saddv* saddwb* saddwt* sbclb* sbclt* sclamp*(single(x2* x4*))
    scvtf*(f16i32 f16i64 f32i64 f64i32 x2* x4*) sdiv*(u*) sdivr* sdot*(lane*(x2*) x2*) sel*(x2*
    x4*) setffr shadd* shrnb* shrnt* shsub*(u*) shsubr* sli* sm4e sm4ekey smax*(single(x2* x4*) u*
    x2* x4*) smaxp* smaxqv* smaxv* smin*(single(x2* x4*) u* x2* x4*) sminp* sminqv* sminv*
    smlalb*(lane*) smlalt*(lane*) smlslb*(lane*) smlslt*(lane*) smmla* smulh*(u*) smullb*(lane*)
    smullt*(lane*) splice* sqabs* sqadd*(x*) sqcadd.x* sqcvt(x2* x4*) sqcvtn(x2* x4*) sqcvtu(x2*
    x4*) sqcvtun(x2* x4*) sqdecb(n32 n64) sqdecd*(n32 n64) sqdech*(n32 n64) sqdecp*(n32* n64*)
    sqdecw*(n32 n64) sqdmlalb*(lane*) sqdmlalbt* sqdmlalt*(lane*) sqdmlslb*(lane*) sqdmlslbt*
    sqdmlslt*(lane*) sqdmulh*(lane* single(vgx2* vgx4*) vgx2* vgx4*) sqdmullb*(lane*)
    sqdmullt*(lane*) sqincb(n32 n64) sqincd*(n32 n64) sqinch*(n32 n64) sqincp*(n32* n64*)
    sqincw*(n32 n64) sqneg* sqrdcmlah(lane.x* x*) sqrdmlah*(lane*) sqrdmlsh*(lane*)
    sqrdmulh*(lane*) sqrshl*(u*) sqrshr(x2* x4*) sqrshrn(x2* x4*) sqrshrnb* sqrshrnt* sqrshru(x2*
    x4*) sqrshrun(x2* x4*) sqrshrunb* sqrshrunt* sqshl*(u*) sqshlu* sqshrnb* sqshrnt* sqshrunb*
    sqshrunt* sqsub*(u* x*) sqsubr* sqxtnb* sqxtnt* sqxtunb* sqxtunt* srhadd* sri*
    srshl*(single(x2* x4*) u* x2* x4*) srshr* srsra* sshllb* sshllt* ssra* ssublb* ssublbt* ssublt*
    ssubltb* ssubwb* ssubwt* st1*(pn(x2* x4*) scatter*(index* scalar.offset* sxtw*(index*)
    uxtw*(index*))) st1dq* st1q.scatter(index* scalar.offset* vector.offset*) st1wq* st2* st2q*
    st3* st3q* st4* st4q* stnt1*(pn(x2* x4*) scatter*(index* scalar.offset* uxtw*)) sub*(u*)
    subhnb* subhnt* subr* sudot.lane* sunpk(x2* x4*) sunpkhi* sunpklo* suqadd* sxtb* sxth* sxtw*
    tbl* tbl2* tblq* tbx* tbxq* trn1*(b16 b32 b64) trn1q* trn2*(b16 b32 b64) trn2q* uaba* uabalb*
    uabalt* uabd*(u*) uabdlb* uabdlt* uadalp* uaddlb* uaddlt* uaddv* uaddwb* uaddwt*
    uclamp*(single(x2* x4*)) ucvtf*(f16i32 f16i64 f32i64 f64i32 x2* x4*) udiv*(u*) udivr*
    udot*(lane*(x2*) x2*) uhadd* uhsub*(u*) uhsubr* umax*(single(x2* x4*) u* x2* x4*) umaxp*
    umaxqv* umaxv* umin*(single(x2* x4*) u* x2* x4*) uminp* uminqv* uminv* umlalb*(lane*)
    umlalt*(lane*) umlslb*(lane*) umlslt*(lane*) ummla* umulh*(u*) umullb*(lane*) umullt*(lane*)
    uqadd*(x*) uqcvt(x2* x4*) uqcvtn(x2* x4*) uqdecb(n32 n64) uqdecd*(n32 n64) uqdech*(n32 n64)
    uqdecp*(n32* n64*) uqdecw*(n32 n64) uqincb(n32 n64) uqincd*(n32 n64) uqinch*(n32 n64)
    uqincp*(n32* n64*) uqincw*(n32 n64) uqrshl*(u*) uqrshr(x2* x4*) uqrshrn(x2* x4*) uqrshrnb*
    uqrshrnt* uqshl*(u*) uqshrnb* uqshrnt* uqsub*(u* x*) uqsubr* uqxtnb* uqxtnt* urecpe* urhadd*
    urshl*(single(x2* x4*) u* x2* x4*) urshr* ursqrte* ursra* usdot*(lane*) ushllb* ushllt* usmmla*
    usqadd* usra* usublb* usublt* usubwb* usubwt* uunpk(x2* x4*) uunpkhi* uunpklo* uxtb* uxth*
    uxtw* uzp(x2* x4*) uzp1*(b16 b32 b64) uzp1q* uzp2*(b16 b32 b64) uzp2q* uzpq(x2* x4*) uzpq1*
    uzpq2* whilege*(c16 c32 c64 c8 x2*) whilegt*(c16 c32 c64 c8 x2*) whilehi*(c16 c32 c64 c8 x2*)
    whilehs*(c16 c32 c64 c8 x2*) whilele*(c16 c32 c64 c8 x2*) whilelo*(c16 c32 c64 c8 x2*)
    whilels*(c16 c32 c64 c8 x2*) whilelt*(c16 c32 c64 c8 x2*) whilerw(b* d* h* s*) whilewr(b* d* h*
    s*) wrffr xar* zip(x2* x4*) zip1*(b16 b32 b64) zip1q* zip2*(b16 b32 b64) zip2q* zipq(x2* x4*)
    zipq1* zipq2*) tagp* udiv*)"

end Reckoner.Llvm.Intrinsic.Table
