/-! Names that start with `ppc`, in the form that `Listing` reads. -/
namespace Reckoner.Llvm.Intrinsic.Table

def ppc : String :=
  "ppc(addex addf128.round.to.odd addg6s addg6sd altivec(crypto(vcipher vcipherlast vncipher
    vncipherlast vpermxor!(be) vpmsumb vpmsumd vpmsumh vpmsumw vsbox vshasigmad vshasigmaw) dss
    dssall dst dstst dststt dstt lvebx lvehx lvewx lvsl lvsr lvx lvxl mfvscr mtvscr mtvsrbm mtvsrdm
    mtvsrhm mtvsrqm mtvsrwm stvebx stvehx stvewx stvx stvxl vabsdub vabsduh vabsduw vaddcuq vaddcuw
    vaddecuq vaddeuqm vaddsbs vaddshs vaddsws vaddubs vadduhs vadduws vavgsb vavgsh vavgsw vavgub
    vavguh vavguw vbpermd vbpermq vcfsx vcfuged vcfux vclrlb vclrrb vclzdm vclzlsbb vcmpbfp!(p)
    vcmpeqfp!(p) vcmpequb!(p) vcmpequd!(p) vcmpequh!(p) vcmpequq!(p) vcmpequw!(p) vcmpgefp!(p)
    vcmpgtfp!(p) vcmpgtsb!(p) vcmpgtsd!(p) vcmpgtsh!(p) vcmpgtsq!(p) vcmpgtsw!(p) vcmpgtub!(p)
    vcmpgtud!(p) vcmpgtuh!(p) vcmpgtuq!(p) vcmpgtuw!(p) vcmpneb!(p) vcmpneh!(p) vcmpnew!(p)
    vcmpnezb!(p) vcmpnezh!(p) vcmpnezw!(p) vcntmbb vcntmbd vcntmbh vcntmbw vctsxs vctuxs vctzdm
    vctzlsbb vdivesd vdivesq vdivesw vdiveud vdiveuq vdiveuw vexpandbm vexpanddm vexpandhm
    vexpandqm vexpandwm vexptefp vextddvlx vextddvrx vextdubvlx vextdubvrx vextduhvlx vextduhvrx
    vextduwvlx vextduwvrx vextractbm vextractdm vextracthm vextractqm vextractwm vextsb2d vextsb2w
    vextsd2q vextsh2d vextsh2w vextsw2d vgbbd vgnb vinsblx vinsbrx vinsbvlx vinsbvrx vinsd vinsdlx
    vinsdrx vinshlx vinshrx vinshvlx vinshvrx vinsw vinswlx vinswrx vinswvlx vinswvrx vlogefp
    vmaddfp vmaxfp vmaxsb vmaxsd vmaxsh vmaxsw vmaxub vmaxud vmaxuh vmaxuw vmhaddshs vmhraddshs
    vminfp vminsb vminsd vminsh vminsw vminub vminud vminuh vminuw vmladduhm vmsumcud vmsummbm
    vmsumshm vmsumshs vmsumubm vmsumudm vmsumuhm vmsumuhs vmulesb vmulesd vmulesh vmulesw vmuleub
    vmuleud vmuleuh vmuleuw vmulhsd vmulhsw vmulhud vmulhuw vmulosb vmulosd vmulosh vmulosw vmuloub
    vmuloud vmulouh vmulouw vnmsubfp vpdepd vperm vpextd vpkpx vpksdss vpksdus vpkshss vpkshus
    vpkswss vpkswus vpkudus vpkuhus vpkuwus vprtybd vprtybq vprtybw vrefp vrfim vrfin vrfip vrfiz
    vrlb vrld vrldmi vrldnm vrlh vrlqmi vrlqnm vrlw vrlwmi vrlwnm vrsqrtefp vsel vsl vslb vsldbi
    vslh vslo vslv vslw vsr vsrab vsrah vsraw vsrb vsrdbi vsrh vsro vsrv vsrw vstribl!(p)
    vstribr!(p) vstrihl!(p) vstrihr!(p) vsubcuq vsubcuw vsubecuq vsubeuqm vsubsbs vsubshs vsubsws
    vsububs vsubuhs vsubuws vsum2sws vsum4sbs vsum4shs vsum4ubs vsumsws vupkhpx vupkhsb vupkhsh
    vupkhsw vupklpx vupklsb vupklsh vupklsw) amo(ldat lwat) atomic(load.i128 store.i128)
    atomicrmw(add.i128 and.i128 nand.i128 or.i128 sub.i128 xchg.i128 xor.i128) bcdadd!(p)
    bcdcopysign bcdsetsign bcdsub!(p) bpermd cbcdtd cbcdtdd cdtbcd cdtbcdd cfence* cfuged cmpb*
    cmpeqb cmprb cmpxchg.i128 cntlzdm cnttzdm compare.exp(eq gt lt uo) convert(f128.to.ppcf128
    ppcf128.to.f128) darn darn32 darnraw dcba dcbf dcbfl dcbflp dcbfps dcbi dcbst dcbstps
    dcbt!(with.hint) dcbtst!(with.hint) dcbtstt dcbtt dcbz dcbzl divde divdeu divf128.round.to.odd
    divwe divweu eieio extract(exp sig) fcfid=1 fcfud=1 fctid=1 fctidz=1 fctiw=1 fctiwz=1 fctudz=1
    fctuwz=1 fence fixed.addr.ld fmaf128.round.to.odd fmsub=3 fmsubs fnabs=1 fnabss fnmadd=3
    fnmadds fnmsub*=3 fre=1 fres frsqrte=1 frsqrtes fsel=3 fsels get(texasr texasru tfhar tfiar)
    icbt insert.exp iospace(eieio lwsync sync) isync lbarx ldarx lharx load2r load4r load8r lwarx
    lwsync maddhd maddhdu maddld maxfe maxfl maxfs mffsl=0 mfmsr mfspr* mftbu minfe minfl minfs
    mma(assemble.acc build.dmr disassemble(acc dmr) dmmr dmsetdmrz dmsha2hash dmsha3hash dmxor
    dmxvbf16gerx2 dmxvbf16gerx2nn dmxvbf16gerx2np dmxvbf16gerx2pn dmxvbf16gerx2pp dmxvf16gerx2
    dmxvf16gerx2nn dmxvf16gerx2np dmxvf16gerx2pn dmxvf16gerx2pp dmxvi8gerx4 dmxvi8gerx4pp
    dmxvi8gerx4spp dmxxextfdmr256 dmxxextfdmr512 dmxxinstdmr256 dmxxinstdmr512 dmxxshapad
    pmdmxvbf16gerx2 pmdmxvbf16gerx2nn pmdmxvbf16gerx2np pmdmxvbf16gerx2pn pmdmxvbf16gerx2pp
    pmdmxvf16gerx2 pmdmxvf16gerx2nn pmdmxvf16gerx2np pmdmxvf16gerx2pn pmdmxvf16gerx2pp
    pmdmxvi8gerx4 pmdmxvi8gerx4pp pmdmxvi8gerx4spp pmxvbf16ger2 pmxvbf16ger2nn pmxvbf16ger2np
    pmxvbf16ger2pn pmxvbf16ger2pp pmxvf16ger2 pmxvf16ger2nn pmxvf16ger2np pmxvf16ger2pn
    pmxvf16ger2pp pmxvf32ger pmxvf32gernn pmxvf32gernp pmxvf32gerpn pmxvf32gerpp pmxvf64ger
    pmxvf64gernn pmxvf64gernp pmxvf64gerpn pmxvf64gerpp pmxvi16ger2 pmxvi16ger2pp pmxvi16ger2s
    pmxvi16ger2spp pmxvi4ger8 pmxvi4ger8pp pmxvi8ger4 pmxvi8ger4pp pmxvi8ger4spp xvbf16ger2
    xvbf16ger2nn xvbf16ger2np xvbf16ger2pn xvbf16ger2pp xvf16ger2 xvf16ger2nn xvf16ger2np
    xvf16ger2pn xvf16ger2pp xvf32ger xvf32gernn xvf32gernp xvf32gerpn xvf32gerpp xvf64ger
    xvf64gernn xvf64gernp xvf64gerpn xvf64gerpp xvi16ger2 xvi16ger2pp xvi16ger2s xvi16ger2spp
    xvi4ger8 xvi4ger8pp xvi8ger4 xvi8ger4pp xvi8ger4spp xxmfacc xxmtacc xxsetaccz) mtfsb0 mtfsb1
    mtfsf mtfsfi mtmsr mtspr* mulf128.round.to.odd mulhd mulhdu mulhw mulhwu national2packed
    pack.longdouble packed2national packed2zoned pdepd pextd popcntb* readflm=0 rldimi rlwimi rlwnm
    scalar(extract.expq insert.exp.qp) set(texasr texasru tfhar tfiar) setb setflm=1 setrnd
    sqrtf128.round.to.odd stbcx stdcx stfiw sthcx store2r store4r store8r stwcx
    subf128.round.to.odd sync tabort tabortdc tabortdci tabortwc tabortwci tbegin tcheck tdw tend
    tendall test.data.class* trap trapd trechkpt treclaim tresume truncf128.round.to.odd tsr
    tsuspend ttest tw unpack.longdouble vsx(assemble.pair disassemble.pair lxvd2x!(be) lxvl lxvll
    lxvp lxvprl lxvprll lxvrl lxvrll lxvw4x!(be) stxvd2x!(be) stxvl stxvll stxvp stxvprl stxvprll
    stxvrl stxvrll stxvw4x!(be) xsmaxdp=2 xsmindp=2 xvcmpeqdp!(p) xvcmpeqsp!(p) xvcmpgedp!(p)
    xvcmpgesp!(p) xvcmpgtdp!(p) xvcmpgtsp!(p) xvcvbf16spn xvcvdpsp xvcvdpsxws xvcvdpuxws xvcvhpsp
    xvcvspbf16 xvcvspdp xvcvsphp xvcvspsxds xvcvspuxds xvcvsxdsp xvcvsxwdp xvcvuxdsp xvcvuxwdp
    xvdivdp xvdivsp xviexpdp xviexpsp xvmaxdp xvmaxsp xvmindp xvminsp xvrdpip xvredp xvresp xvrlw
    xvrspip xvrsqrtedp xvrsqrtesp xvtdivdp xvtdivsp xvtlsbb xvtsqrtdp xvtsqrtsp xvtstdcdp xvtstdcsp
    xvxexpdp xvxexpsp xvxsigdp xvxsigsp xxblendvb xxblendvd xxblendvh xxblendvw xxeval xxextractuw
    xxgenpcvbm xxgenpcvdm xxgenpcvhm xxgenpcvwm xxinsertw xxleqv xxpermx) zoned2packed)"

end Reckoner.Llvm.Intrinsic.Table
