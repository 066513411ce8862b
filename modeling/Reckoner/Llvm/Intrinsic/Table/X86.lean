/-! Names that start with `x86`, in the form that `Listing` reads. -/
namespace Reckoner.Llvm.Intrinsic.Table

def x86 : String :=
  "x86(aadd32 aadd64 aand32 aand64 addcarry(32 64) aesdec128kl aesdec256kl aesdecwide128kl
    aesdecwide256kl aesenc128kl aesenc256kl aesencwide128kl aesencwide256kl aesni(aesdec!(256 512)
    aesdeclast!(256 512) aesenc!(256 512) aesenclast!(256 512) aesimc aeskeygenassist) aor32 aor64
    atomic(add.cc* and.cc* btc*(rm*) btr*(rm*) bts*(rm*) or.cc* sub.cc* xor.cc*) avx(addsub(pd.256
    ps.256) blendv(pd.256 ps.256) cmp(pd.256 ps.256) cvt(pd2.ps.256 pd2dq.256 ps2dq.256)
    cvtt(pd2dq.256 ps2dq.256) dp.ps.256 hadd(pd.256 ps.256) hsub(pd.256 ps.256) ldu.dq.256
    maskload(pd!(256) ps!(256)) maskstore(pd!(256) ps!(256)) max(pd.256 ps.256) min(pd.256 ps.256)
    movmsk(pd.256 ps.256) ptestc.256 ptestnzc.256 ptestz.256 rcp.ps.256 round(pd.256 ps.256)
    rsqrt.ps.256 vpermilvar(pd!(256) ps!(256)) vtestc(pd!(256) ps!(256)) vtestnzc(pd!(256)
    ps!(256)) vtestz(pd!(256) ps!(256)) vzeroall vzeroupper) avx10(fpclass.bf16(128 256 512)
    mask(getexp.bf16(128 256 512) getmant.bf16(128 256 512) rcp.bf16(128 256 512) reduce.bf16(128
    256 512) rndscale.bf16(128 256 512) rsqrt.bf16(128 256 512) scalef.bf16(128 256 512)
    vcvt2ps2phx(128 256 512) vcvtbiasph2bf8128 vcvtbiasph2bf8256 vcvtbiasph2bf8512
    vcvtbiasph2bf8s128 vcvtbiasph2bf8s256 vcvtbiasph2bf8s512 vcvtbiasph2hf8128 vcvtbiasph2hf8256
    vcvtbiasph2hf8512 vcvtbiasph2hf8s128 vcvtbiasph2hf8s256 vcvtbiasph2hf8s512 vcvthf82ph128
    vcvthf82ph256 vcvthf82ph512 vcvtph2bf8128 vcvtph2bf8256 vcvtph2bf8512 vcvtph2bf8s128
    vcvtph2bf8s256 vcvtph2bf8s512 vcvtph2hf8128 vcvtph2hf8256 vcvtph2hf8512 vcvtph2hf8s128
    vcvtph2hf8s256 vcvtph2hf8s512 vcvtph2ibs128 vcvtph2ibs256 vcvtph2ibs512 vcvtph2iubs128
    vcvtph2iubs256 vcvtph2iubs512 vcvtps2ibs128 vcvtps2ibs256 vcvtps2ibs512 vcvtps2iubs128
    vcvtps2iubs256 vcvtps2iubs512 vcvttpd2dqs(128 256 round.512) vcvttpd2qqs(128 256 round.512)
    vcvttpd2udqs(128 256 round.512) vcvttpd2uqqs(128 256 round.512) vcvttph2ibs128 vcvttph2ibs256
    vcvttph2ibs512 vcvttph2iubs128 vcvttph2iubs256 vcvttph2iubs512 vcvttps2dqs(128 256 round.512)
    vcvttps2ibs128 vcvttps2ibs256 vcvttps2ibs512 vcvttps2iubs128 vcvttps2iubs256 vcvttps2iubs512
    vcvttps2qqs(128 256 round.512) vcvttps2udqs(128 256 round.512) vcvttps2uqqs(128 256 round.512)
    vminmaxpd.round vminmaxpd128 vminmaxpd256 vminmaxph.round vminmaxph128 vminmaxph256
    vminmaxps.round vminmaxps128 vminmaxps256 vminmaxsd.round vminmaxsh.round vminmaxss.round)
    vaddbf16128 vaddbf16256 vaddbf16512 vaddpd256 vaddph256 vaddps256 vcomisbf16eq vcomisbf16ge
    vcomisbf16gt vcomisbf16le vcomisbf16lt vcomisbf16neq vcvt2ph2bf8128 vcvt2ph2bf8256
    vcvt2ph2bf8512 vcvt2ph2bf8s128 vcvt2ph2bf8s256 vcvt2ph2bf8s512 vcvt2ph2hf8128 vcvt2ph2hf8256
    vcvt2ph2hf8512 vcvt2ph2hf8s128 vcvt2ph2hf8s256 vcvt2ph2hf8s512 vcvtbf162ibs128 vcvtbf162ibs256
    vcvtbf162ibs512 vcvtbf162iubs128 vcvtbf162iubs256 vcvtbf162iubs512 vcvttbf162ibs128
    vcvttbf162ibs256 vcvttbf162ibs512 vcvttbf162iubs128 vcvttbf162iubs256 vcvttbf162iubs512
    vcvttsd2sis vcvttsd2sis64 vcvttsd2usis vcvttsd2usis64 vcvttss2sis vcvttss2sis64 vcvttss2usis
    vcvttss2usis64 vdivbf16128 vdivbf16256 vdivbf16512 vdpphps(128 256 512) vfmadd132bf16128
    vfmadd132bf16256 vfmadd132bf16512 vfmadd213bf16128 vfmadd213bf16256 vfmadd231bf16128
    vfmadd231bf16256 vfmadd231bf16512 vfmsub132bf16128 vfmsub132bf16256 vfmsub132bf16512
    vfmsub213bf16128 vfmsub213bf16256 vfmsub213bf16512 vfmsub231bf16128 vfmsub231bf16256
    vfmsub231bf16512 vfnmadd132bf16128 vfnmadd132bf16256 vfnmadd132bf16512 vfnmadd213bf16128
    vfnmadd213bf16256 vfnmadd213bf16512 vfnmadd231bf16128 vfnmadd231bf16256 vfnmadd231bf16512
    vfnmsub132bf16128 vfnmsub132bf16256 vfnmsub132bf16512 vfnmsub213bf16128 vfnmsub213bf16256
    vfnmsub213bf16512 vfnmsub231bf16128 vfnmsub231bf16256 vfnmsub231bf16512 vmaxbf16128 vmaxbf16256
    vmaxbf16512 vminbf16128 vminbf16256 vminbf16512 vminmaxbf16128 vminmaxbf16256 vminmaxbf16512
    vminmaxpd128 vminmaxpd256 vminmaxph128 vminmaxph256 vminmaxps128 vminmaxps256 vmovrsb128
    vmovrsb256 vmovrsb512 vmovrsd128 vmovrsd256 vmovrsd512 vmovrsq128 vmovrsq256 vmovrsq512
    vmovrsw128 vmovrsw256 vmovrsw512 vmpsadbw.512 vmulbf16128 vmulbf16256 vmulbf16512 vpdpbssd.512
    vpdpbssds.512 vpdpbsud.512 vpdpbsuds.512 vpdpbuud.512 vpdpbuuds.512 vpdpwsud.512 vpdpwsuds.512
    vpdpwusd.512 vpdpwusds.512 vpdpwuud.512 vpdpwuuds.512 vsubbf16128 vsubbf16256 vsubbf16512)
    avx2(gather(d(d!(256) pd!(256) ps!(256) q!(256)) q(d!(256) pd!(256) ps!(256) q!(256)))
    maskload(d!(256) q!(256)) maskstore(d!(256) q!(256)) mpsadbw packssdw packsswb packusdw
    packuswb pavg(b w) pblendvb permd permps phadd(d sw w) phsub(d sw w) pmadd(ub.sw wd) pmovmskb
    pmul.hr.sw pmulh.w pmulhu.w psad.bw pshuf.b psign(b d w) psll(d q w) pslli(d q w) psllv(d!(256)
    q!(256)) psra(d w) psrai(d w) psrav.d!(256) psrl(d q w) psrli(d q w) psrlv(d!(256) q!(256))
    vpdpbssd(128 256) vpdpbssds(128 256) vpdpbsud(128 256) vpdpbsuds(128 256) vpdpbuud(128 256)
    vpdpbuuds(128 256) vpdpwsud(128 256) vpdpwsuds(128 256) vpdpwusd(128 256) vpdpwusds(128 256)
    vpdpwuud(128 256) vpdpwuuds(128 256)) avx512(add(pd.512 ps.512) broadcastmb(128 256 512)
    broadcastmw(128 256 512) conflict(d(128 256 512) q(128 256 512)) cvtsi2sd64 cvtsi2ss32
    cvtsi2ss64 cvttsd2si cvttsd2si64 cvttsd2usi cvttsd2usi64 cvttss2si cvttss2si64 cvttss2usi
    cvttss2usi64 cvtusi2ss cvtusi642sd cvtusi642ss dbpsadbw(128 256 512) div(pd.512 ps.512)
    fpclass(pd(128 256 512) ps(128 256 512)) gather(dpd.512 dpi.512 dpq.512 dps.512 qpd.512 qpi.512
    qpq.512 qps.512) gather3div2(df di) gather3div4(df di sf si) gather3div8(sf si) gather3siv2(df
    di) gather3siv4(df di sf si) gather3siv8(sf si) kadd(b d q w) ktestc(b d q w) ktestz(b d q w)
    mask(add(sd.round ss.round) cmp(pd(128 256 512) ps(128 256 512) sd ss) compress* cvtpd2dq(128
    512) cvtpd2ps!(512) cvtpd2qq(128 256 512) cvtpd2udq(128 256 512) cvtpd2uqq(128 256 512)
    cvtps2dq(128 256 512) cvtps2pd.512 cvtps2qq(128 256 512) cvtps2udq(128 256 512) cvtps2uqq(128
    256 512) cvtqq2ps.128 cvtsd2ss.round cvtss2sd.round cvttpd2dq(128 512) cvttpd2qq(128 256 512)
    cvttpd2udq(128 256 512) cvttpd2uqq(128 256 512) cvttps2dq.512 cvttps2qq(128 256 512)
    cvttps2udq(128 256 512) cvttps2uqq(128 256 512) cvtuqq2ps.128 div(sd.round ss.round) expand*
    fixupimm(pd(128 256 512) ps(128 256 512) sd ss) fpclass(sd ss) gather(dpd.512 dpi.512 dpq.512
    dps.512 qpd.512 qpi.512 qpq.512 qps.512) gather3div2(df di) gather3div4(df di sf si)
    gather3div8(sf si) gather3siv2(df di) gather3siv4(df di sf si) gather3siv8(sf si) getexp(pd(128
    256 512) ps(128 256 512) sd ss) getmant(pd(128 256 512) ps(128 256 512) sd ss) max(sd.round
    ss.round) min(sd.round ss.round) mul(sd.round ss.round) pmov(db(128 256 512 mem(128 256 512))
    dw(128 256 512 mem(128 256 512)) qb(128 256 512 mem(128 256 512)) qd(128 mem(128 256 512))
    qw(128 256 512 mem(128 256 512)) wb(128 mem(128 256 512))) pmovs(db(128 256 512 mem(128 256
    512)) dw(128 256 512 mem(128 256 512)) qb(128 256 512 mem(128 256 512)) qd(128 256 512 mem(128
    256 512)) qw(128 256 512 mem(128 256 512)) wb(128 256 512 mem(128 256 512))) pmovus(db(128 256
    512 mem(128 256 512)) dw(128 256 512 mem(128 256 512)) qb(128 256 512 mem(128 256 512)) qd(128
    256 512 mem(128 256 512)) qw(128 256 512 mem(128 256 512)) wb(128 256 512 mem(128 256 512)))
    range(pd(128 256 512) ps(128 256 512) sd ss) reduce(pd(128 256 512) ps(128 256 512) sd ss)
    rndscale(pd(128 256 512) ps(128 256 512) sd ss) scalef(pd(128 256 512) ps(128 256 512) sd ss)
    scatter(dpd.512 dpi.512 dpq.512 dps.512 qpd.512 qpi.512 qpq.512 qps.512) scatterdiv2(df di)
    scatterdiv4(df di sf si) scatterdiv8(sf si) scattersiv2(df di) scattersiv4(df di sf si)
    scattersiv8(sf si) sqrt(sd ss) sub(sd.round ss.round) vcvtph2ps.512 vcvtps2ph(128 256 512))
    maskz.fixupimm(pd(128 256 512) ps(128 256 512) sd ss) max(pd.512 ps.512) min(pd.512 ps.512)
    mul(pd.512 ps.512) packssdw.512 packsswb.512 packusdw.512 packuswb.512 pavg(b.512 w.512)
    permvar(df(256 512) di(256 512) hi(128 256 512) qi(128 256 512) sf.512 si.512) pmaddubs.w.512
    pmaddw.d.512 pmul.hr.sw.512 pmulh.w.512 pmulhu.w.512 pmultishift.qb(128 256 512) psad.bw.512
    pshuf.b.512 psll(d.512 q.512 w.512) pslli(d.512 q.512 w.512) psllv(d.512 q.512 w(128 256 512))
    psra(d.512 q(128 256 512) w.512) psrai(d.512 q(128 256 512) w.512) psrav(d.512 q(128 256 512)
    w(128 256 512)) psrl(d.512 q.512 w.512) psrli(d.512 q.512 w.512) psrlv(d.512 q.512 w(128 256
    512)) pternlog(d(128 256 512) q(128 256 512)) rcp14(pd(128 256 512) ps(128 256 512) sd ss)
    rsqrt14(pd(128 256 512) ps(128 256 512) sd ss) scatter(dpd.512 dpi.512 dpq.512 dps.512 qpd.512
    qpi.512 qpq.512 qps.512) scatterdiv2(df di) scatterdiv4(df di sf si) scatterdiv8(sf si)
    scattersiv2(df di) scattersiv4(df di sf si) scattersiv8(sf si) sitofp.round* sqrt(pd.512
    ps.512) sub(pd.512 ps.512) uitofp.round* vcomi(sd ss) vcvtsd2si32 vcvtsd2si64 vcvtsd2usi32
    vcvtsd2usi64 vcvtss2si32 vcvtss2si64 vcvtss2usi32 vcvtss2usi64 vfmadd(f32 f64 pd.512 ps.512)
    vfmaddsub(pd.512 ps.512) vp2intersect(d(128 256 512) q(128 256 512)) vpdpbusd(128 256 512)
    vpdpbusds(128 256 512) vpdpwssd(128 256 512) vpdpwssds(128 256 512) vpermi2var(d(128 256 512)
    hi(128 256 512) pd(128 256 512) ps(128 256 512) q(128 256 512) qi(128 256 512))
    vpermilvar(pd.512 ps.512) vpmadd52h.uq(128 256 512) vpmadd52l.uq(128 256 512) vpshufbitqmb(128
    256 512)) avx512bf16(cvtne2ps2bf16(128 256 512) cvtneps2bf16(256 512) dpbf16ps(128 256 512)
    mask.cvtneps2bf16.128) avx512fp16(add.ph.512 div.ph.512 fpclass.ph(128 256 512)
    mask(add.sh.round cmp(ph(128 256 512) sh) div.sh.round fpclass.sh getexp(ph(128 256 512) sh)
    getmant(ph(128 256 512) sh) max.sh.round min.sh.round mul.sh.round rcp(ph(128 256 512) sh)
    reduce(ph(128 256 512) sh) rndscale(ph(128 256 512) sh) rsqrt(ph(128 256 512) sh) scalef(ph(128
    256 512) sh) sqrt.sh sub.sh.round vcvtdq2ph.128 vcvtpd2ph(128 256 512) vcvtph2dq(128 256 512)
    vcvtph2pd(128 256 512) vcvtph2psx(128 256 512) vcvtph2qq(128 256 512) vcvtph2udq(128 256 512)
    vcvtph2uqq(128 256 512) vcvtph2uw(128 256 512) vcvtph2w(128 256 512) vcvtps2phx(128 256 512)
    vcvtqq2ph(128 256) vcvtsd2sh.round vcvtsh2sd.round vcvtsh2ss.round vcvtss2sh.round
    vcvttph2dq(128 256 512) vcvttph2qq(128 256 512) vcvttph2udq(128 256 512) vcvttph2uqq(128 256
    512) vcvttph2uw(128 256 512) vcvttph2w(128 256 512) vcvtudq2ph.128 vcvtuqq2ph(128 256)
    vfcmadd(cph(128 256 512) csh) vfcmul(cph(128 256 512) csh) vfmadd(cph(128 256 512) csh)
    vfmul(cph(128 256 512) csh)) maskz(vfcmadd(cph(128 256 512) csh) vfmadd(cph(128 256 512) csh))
    max.ph(128 256 512) min.ph(128 256 512) mul.ph.512 sqrt.ph.512 sub.ph.512 vcomi.sh vcvtsh2si32
    vcvtsh2si64 vcvtsh2usi32 vcvtsh2usi64 vcvtsi2sh vcvtsi642sh vcvttsh2si32 vcvttsh2si64
    vcvttsh2usi32 vcvttsh2usi64 vcvtusi2sh vcvtusi642sh vfmadd(f16 ph.512) vfmaddsub.ph(128 256
    512)) axor32 axor64 bmi(bextr(32 64) bzhi(32 64) pdep(32 64) pext(32 64)) cast(tile.to.vector*
    vector.to.tile*) cldemote clflushopt clrssbsy clui clwb clzero cmpccxadd32 cmpccxadd64
    directstore32 directstore64 encodekey128 encodekey256 enqcmd enqcmds flags(read(u32 u64)
    write(u32 u64)) fma.vfmaddsub(pd!(256) ps!(256)) fxrstor fxrstor64 fxsave fxsave64 incsspd
    incsspq int invpcid ldtilecfg!(internal) llwpcb loadiwkey lwpins32 lwpins64 lwpval32 lwpval64
    mmx(emms maskmovq movnt.dq packssdw packsswb packuswb padd(b d q w) padds(b w) paddus(b w)
    palignr.b pand pandn pavg(b w) pcmpeq(b d w) pcmpgt(b d w) pextr.w pinsr.w pmadd.wd pmaxs.w
    pmaxu.b pmins.w pminu.b pmovmskb pmulh.w pmulhu.w pmull.w pmulu.dq por psad.bw psll(d q w)
    pslli(d q w) psra(d w) psrai(d w) psrl(d q w) psrli(d q w) psub(b d q w) psubs(b w) psubus(b w)
    punpckhbw punpckhdq punpckhwd punpcklbw punpckldq punpcklwd pxor) monitorx movdir64b movrsdi
    movrshi movrsqi movrssi mwaitx pclmulqdq!(256 512) prefetchrs ptwrite32 ptwrite64 rdfsbase(32
    64) rdgsbase(32 64) rdpid rdpkru rdpmc rdpru rdrand(16 32 64) rdseed(16 32 64) rdsspd rdsspq
    rdtsc rdtscp rstorssp saveprevssp seh(ehguard ehregnode lsda) senduipi serialize setssbsy
    sha1msg1 sha1msg2 sha1nexte sha1rnds4 sha256msg1 sha256msg2 sha256rnds2 slwpcb sse(cmp(ps ss)
    comieq.ss comige.ss comigt.ss comile.ss comilt.ss comineq.ss cvtpd2pi cvtpi2pd cvtpi2ps
    cvtps2pi cvtss2si cvtss2si64 cvttpd2pi cvttps2pi cvttss2si cvttss2si64 ldmxcsr max(ps ss)
    min(ps ss) movmsk.ps pshuf.w rcp(ps ss) rsqrt(ps ss) sfence stmxcsr ucomieq.ss ucomige.ss
    ucomigt.ss ucomile.ss ucomilt.ss ucomineq.ss) sse2(clflush cmp(pd sd) comieq.sd comige.sd
    comigt.sd comile.sd comilt.sd comineq.sd cvtpd2dq cvtpd2ps cvtps2dq cvtsd2si cvtsd2si64
    cvtsd2ss cvttpd2dq cvttps2dq cvttsd2si cvttsd2si64 lfence maskmov.dqu max(pd sd) mfence min(pd
    sd) movmsk.pd packssdw.128 packsswb.128 packuswb.128 pause pavg(b w) pmadd.wd pmovmskb.128
    pmulh.w pmulhu.w psad.bw psll(d q w) pslli(d q w) psra(d w) psrai(d w) psrl(d q w) psrli(d q w)
    ucomieq.sd ucomige.sd ucomigt.sd ucomile.sd ucomilt.sd ucomineq.sd) sse3(addsub(pd ps) hadd(pd
    ps) hsub(pd ps) ldu.dq monitor mwait) sse41(blendvpd blendvps dppd dpps insertps mpsadbw
    packusdw pblendvb phminposuw ptestc ptestnzc ptestz round(pd ps sd ss)) sse42(crc32(32(16 32 8)
    64.64) pcmpestri128 pcmpestria128 pcmpestric128 pcmpestrio128 pcmpestris128 pcmpestriz128
    pcmpestrm128 pcmpistri128 pcmpistria128 pcmpistric128 pcmpistrio128 pcmpistris128 pcmpistriz128
    pcmpistrm128) sse4a(extrq extrqi insertq insertqi) ssse3(pabs(b d w) phadd(d!(128) sw!(128)
    w!(128)) phsub(d!(128) sw!(128) w!(128)) pmadd.ub.sw!(128) pmul.hr.sw!(128) pshuf.b!(128)
    psign(b!(128) d!(128) w!(128))) sttilecfg stui subborrow(32 64) tbm.bextri(u32 u64)
    tcmmimfp16ps!(internal) tcmmrlfp16ps!(internal) tcvtrowd2ps!(internal) tcvtrowd2psi
    tcvtrowps2bf16h!(internal) tcvtrowps2bf16hi tcvtrowps2bf16l!(internal) tcvtrowps2bf16li
    tcvtrowps2phh!(internal) tcvtrowps2phhi tcvtrowps2phl!(internal) tcvtrowps2phli
    tdpbf16ps!(internal) tdpbf8ps!(internal) tdpbhf8ps!(internal) tdpbssd!(internal)
    tdpbsud!(internal) tdpbusd!(internal) tdpbuud!(internal) tdpfp16ps!(internal)
    tdphbf8ps!(internal) tdphf8ps!(internal) testui tileloadd64!(internal) tileloaddrs64!(internal)
    tileloaddrst164!(internal) tileloaddt164!(internal) tilemovrow!(internal) tilemovrowi
    tilerelease tilestored64!(internal) tilezero!(internal) tmmultf32ps!(internal) tpause umonitor
    umwait urdmsr uwrmsr vbcstnebf162ps128 vbcstnebf162ps256 vbcstnesh2ps128 vbcstnesh2ps256
    vcvtneebf162ps128 vcvtneebf162ps256 vcvtneeph2ps128 vcvtneeph2ps256 vcvtneobf162ps128
    vcvtneobf162ps256 vcvtneoph2ps128 vcvtneoph2ps256 vcvtneps2bf16128 vcvtneps2bf16256
    vcvtps2ph(128 256) vgf2p8affineinvqb(128 256 512) vgf2p8affineqb(128 256 512) vgf2p8mulb(128
    256 512) vsha512msg1 vsha512msg2 vsha512rnds2 vsm3msg1 vsm3msg2 vsm3rnds2 vsm4key4128
    vsm4key4256 vsm4key4512 vsm4rnds4128 vsm4rnds4256 vsm4rnds4512 wbinvd wbnoinvd wrfsbase(32 64)
    wrgsbase(32 64) wrpkru wrssd wrssq wrussd wrussq xabort xbegin xend xgetbv xop(vfrcz(pd!(256)
    ps!(256) sd ss) vpermil2pd!(256) vpermil2ps!(256) vphaddbd vphaddbq vphaddbw vphadddq vphaddubd
    vphaddubq vphaddubw vphaddudq vphadduwd vphadduwq vphaddwd vphaddwq vphsubbw vphsubdq vphsubwd
    vpmacsdd vpmacsdqh vpmacsdql vpmacssdd vpmacssdqh vpmacssdql vpmacsswd vpmacssww vpmacswd
    vpmacsww vpmadcsswd vpmadcswd vpperm vpshab vpshad vpshaq vpshaw vpshlb vpshld vpshlq vpshlw)
    xresldtrk xrstor xrstor64 xrstors xrstors64 xsave xsave64 xsavec xsavec64 xsaveopt xsaveopt64
    xsaves xsaves64 xsetbv xsusldtrk xtest)"

end Reckoner.Llvm.Intrinsic.Table
