/-! Names that start with `arm`, in the form that `Listing` reads. -/
namespace Reckoner.Llvm.Intrinsic.Table

def arm : String :=
  "arm(cde(cx1 cx1a cx1d cx1da cx2 cx2a cx2d cx2da cx3 cx3a cx3d cx3da vcx1* vcx1a*
    vcx1q!(predicated*) vcx1qa!(predicated*) vcx2* vcx2a* vcx2q!(predicated*) vcx2qa!(predicated*)
    vcx3* vcx3a* vcx3q!(predicated*) vcx3qa!(predicated*)) cdp cdp2 clrex cls cls64 cmse(tt tta
    ttat ttt) crc32b crc32cb crc32ch crc32cw crc32h crc32w dbg dmb dsb get.fpscr gnu.eabi.mcount
    hint isb ldaex* ldaexd ldc ldc2 ldc2l ldcl ldrex* ldrexd mcr mcr2 mcrr mcrr2 mrc mrc2 mrrc
    mrrc2 mve(abd.predicated* abs.predicated* add.predicated* addlv*(predicated*)
    addv*(predicated*) and.predicated* asrl bic.predicated* cls.predicated* clz.predicated* cmp(eq*
    ge* gt* le* lt* ne*) eor.predicated* fma*(predicated*) hadd.predicated* hsub.predicated* lsll
    max.predicated* maxav*(predicated*) maxnmav*(predicated*) maxnmv*(predicated*)
    maxv*(predicated*) min.predicated* minav*(predicated*) minnmav*(predicated*)
    minnmv*(predicated*) minv*(predicated*) mul.predicated* mulh.predicated* mull(int.predicated*
    poly.predicated*) mvn.predicated* neg.predicated* orn.predicated* orr.predicated* pred(i2v*
    v2i*) qabs.predicated* qadd.predicated* qdmulh.predicated* qneg.predicated* qrdmulh.predicated*
    qsub.predicated* rhadd.predicated* rmulh.predicated* shl.imm.predicated* shr.imm.predicated*
    sqrshr sqrshrl sqshl sqshll srshr srshrl sub.predicated* uqrshl uqrshll uqshl uqshll urshr
    urshrl vabav*(predicated*) vabd* vadc*(predicated*) vadd* vbrsr*(predicated*)
    vcaddq*(predicated*) vcls* vcmlaq*(predicated*) vcmulq*(predicated*) vctp16 vctp32 vctp64 vctp8
    vcvt(fix*(predicated*) fp.int*(predicated*) int.fp* narrow!(predicated) widen!(predicated))
    vcvta*(predicated*) vcvtm*(predicated*) vcvtn*(predicated*) vcvtp*(predicated*)
    vddup*(predicated*) vdwdup*(predicated*) vhadd* vhsub* vidup*(predicated*) viwdup*(predicated*)
    vld2q* vld4q* vldr.gather(base*(predicated* wb*(predicated*)) offset*(predicated*))
    vmaxa.predicated* vmaxnm* vmaxnma.predicated* vmina.predicated* vminnm* vminnma.predicated*
    vmla.n.predicated* vmlas.n.predicated* vmldava*(predicated*) vmlldava*(predicated*)
    vmovl.predicated* vmovn.predicated* vmul* vmulh* vmull*(poly*) vqdmlad*(predicated*)
    vqdmlah*(predicated*) vqdmlash*(predicated*) vqdmulh* vqdmull*(predicated*)
    vqmovn*(predicated*) vqrdmlah*(predicated*) vqrdmlash*(predicated*) vqrdmulh*
    vqshl.imm*(predicated*) vqshlu.imm*(predicated*) vreinterpretq* vrev.predicated* vrhadd*
    vrinta*(predicated*) vrintm*(predicated*) vrintn*(predicated*) vrintp*(predicated*)
    vrintx*(predicated*) vrintz*(predicated*) vrmlldavha*(predicated*) vrmulh*
    vrshr.imm*(predicated*) vsbc*(predicated*) vshl(scalar*(predicated*) vector*(predicated*))
    vshlc*(predicated*) vshll.imm*(predicated*) vshrn*(predicated*) vsli*(predicated*)
    vsri*(predicated*) vst2q* vst4q* vstr.scatter(base*(predicated* wb*(predicated*))
    offset*(predicated*)) vsub*) neon(aesd aese aesimc aesmc bfdot* bfmlalb bfmlalt bfmmla sdot*
    sha1c sha1h sha1m sha1p sha1su0 sha1su1 sha256h sha256h2 sha256su0 sha256su1 smmla* udot*
    ummla* usdot* usmmla* vabds* vabdu* vabs* vacge* vacgt* vbsl* vcadd(rot270* rot90*) vcls*
    vcvtas* vcvtau* vcvtbfp2bf vcvtfp2bf* vcvtfp2fxs* vcvtfp2fxu* vcvtfp2hf vcvtfxs2fp* vcvtfxu2fp*
    vcvthf2fp vcvtms* vcvtmu* vcvtns* vcvtnu* vcvtps* vcvtpu* vhadds* vhaddu* vhsubs* vhsubu* vld1*
    vld1x2* vld1x3* vld1x4* vld2* vld2dup* vld2lane* vld3* vld3dup* vld3lane* vld4* vld4dup*
    vld4lane* vmaxnm* vmaxs* vmaxu* vminnm* vmins* vminu* vmullp* vmulls* vmullu* vmulp* vpadals*
    vpadalu* vpadd* vpaddls* vpaddlu* vpmaxs* vpmaxu* vpmins* vpminu* vqabs* vqdmulh* vqdmull*
    vqmovns* vqmovnsu* vqmovnu* vqneg* vqrdmlah* vqrdmlsh* vqrdmulh* vqrshiftns* vqrshiftnsu*
    vqrshiftnu* vqrshifts* vqrshiftu* vqshiftns* vqshiftnsu* vqshiftnu* vqshifts* vqshiftsu*
    vqshiftu* vraddhn* vrecpe* vrecps* vrhadds* vrhaddu* vrshiftn* vrshifts* vrshiftu* vrsqrte*
    vrsqrts* vrsubhn* vshiftins* vshifts* vshiftu* vst1* vst1x2* vst1x3* vst1x4* vst2* vst2lane*
    vst3* vst3lane* vst4* vst4lane* vtbl1 vtbl2 vtbl3 vtbl4 vtbx1 vtbx2 vtbx3 vtbx4) qadd qadd16
    qadd8 qasx qsax qsub qsub16 qsub8 sadd16 sadd8 sasx sel set.fpscr shadd16 shadd8 shasx shsax
    shsub16 shsub8 smlabb smlabt smlad smladx smlald smlaldx smlatb smlatt smlawb smlawt smlsd
    smlsdx smlsld smlsldx smuad smuadx smulbb smulbt smultb smultt smulwb smulwt smusd smusdx space
    ssat ssat16 ssax ssub16 ssub8 stc stc2 stc2l stcl stlex* stlexd strex* strexd sxtab16 sxtb16
    uadd16 uadd8 uasx uhadd16 uhadd8 uhasx uhsax uhsub16 uhsub8 undefined uqadd16 uqadd8 uqasx
    uqsax uqsub16 uqsub8 usad8 usada8 usat usat16 usax usub16 usub8 uxtab16 uxtb16 vcvtr* vcvtru*)"

end Reckoner.Llvm.Intrinsic.Table
