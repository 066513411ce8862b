/-! Names that start with `hexagon`, in the form that `Listing` reads. -/
namespace Reckoner.Llvm.Intrinsic.Table

def hexagon : String :=
  "hexagon(A2(abs absp abssat add addh(h16(hh hl lh ll sat(hh hl lh ll)) l16(hl ll sat(hl ll)))
    addi addp addpsat addsat addsp and andir andp aslh asrh combine(hh hl lh ll) combineii combinew
    max maxp maxu maxup min minp minu minup neg negp negsat not notp or orir orp roundsat sat satb
    sath satub satuh sub subh(h16(hh hl lh ll sat(hh hl lh ll)) l16(hl ll sat(hl ll))) subp subri
    subsat svaddh svaddhs svadduhs svavgh svavghs svnavgh svsubh svsubhs svsubuhs swiz sxtb sxth
    sxtw tfr tfrih tfril tfrp tfrpi tfrsi vabsh vabshsat vabsw vabswsat vaddb.map vaddh vaddhs
    vaddub vaddubs vadduhs vaddw vaddws vavgh vavghcr vavghr vavgub vavgubr vavguh vavguhr vavguw
    vavguwr vavgw vavgwcr vavgwr vcmpbeq vcmpbgtu vcmpheq vcmphgt vcmphgtu vcmpweq vcmpwgt vcmpwgtu
    vconj vmaxb vmaxh vmaxub vmaxuh vmaxuw vmaxw vminb vminh vminub vminuh vminuw vminw vnavgh
    vnavghcr vnavghr vnavgw vnavgwcr vnavgwr vraddub!(acc) vrsadub!(acc) vsubb.map vsubh vsubhs
    vsubub vsububs vsubuhs vsubw vsubws xor xorp zxtb zxth) A4(andn andnp bitsplit bitspliti
    boundscheck cmpbeq cmpbeqi cmpbgt cmpbgti cmpbgtu cmpbgtui cmpheq cmpheqi cmphgt cmphgti
    cmphgtu cmphgtui combineir combineri cround(ri rr) modwrapu orn ornp rcmpeq rcmpeqi rcmpneq
    rcmpneqi round(ri!(sat) rr!(sat)) tlbmatch vcmpbeq.any vcmpbeqi vcmpbgt vcmpbgti vcmpbgtui
    vcmpheqi vcmphgti vcmphgtui vcmpweqi vcmpwgti vcmpwgtui vrmaxh vrmaxuh vrmaxuw vrmaxw vrminh
    vrminuh vrminuw vrminw) A5.vaddhubs A6.vcmpbeq.notany A7(clip croundd(ri rr) vclip) C2(all8 and
    andn any8 bitsclr bitsclri bitsset cmpeq cmpeqi cmpeqp cmpgei cmpgeui cmpgt cmpgti cmpgtp
    cmpgtu cmpgtui cmpgtup cmplt cmpltu mask mux muxii muxir muxri not or orn pxfer.map tfrpr tfrrp
    vitpack vmux xor) C4(and(and andn or orn) cmplte cmpltei cmplteu cmplteui cmpneq cmpneqi
    fastcorner9!(not) nbitsclr nbitsclri nbitsset or(and andn or orn)) F2(conv(d2df d2sf
    df2d!(chop) df2sf df2ud!(chop) df2uw!(chop) df2w!(chop) sf2d!(chop) sf2df sf2ud!(chop)
    sf2uw!(chop) sf2w!(chop) ud2df ud2sf uw2df uw2sf w2df w2sf) dfadd=2 dfclass dfcmpeq dfcmpge
    dfcmpgt dfcmpuo dfimm(n p) dfmax=2 dfmin=2 dfmpyfix=2 dfmpyhh=3 dfmpylh=3 dfmpyll=2 dfsub=2
    sfadd sfclass sfcmpeq sfcmpge sfcmpgt sfcmpuo sffixupd sffixupn sffixupr sffma!(lib sc)
    sffms!(lib) sfimm(n p) sfmax sfmin sfmpy sfsub) L2(loadrb(pbr pci pcr) loadrd(pbr pci pcr)
    loadrh(pbr pci pcr) loadri(pbr pci pcr) loadrub(pbr pci pcr) loadruh(pbr pci pcr) loadw.locked)
    L4.loadd.locked M2(acci accii cmaci.s0 cmacr.s0 cmacs(s0 s1) cmacsc(s0 s1) cmpyi.s0 cmpyr.s0
    cmpyrs(s0 s1) cmpyrsc(s0 s1) cmpys(s0 s1) cmpysc(s0 s1) cnacs(s0 s1) cnacsc(s0 s1)
    dpmpyss(acc.s0 nac.s0 rnd.s0 s0) dpmpyuu(acc.s0 nac.s0 s0) hmmpyh(rs1 s1) hmmpyl(rs1 s1) maci
    macsin macsip mmachs(rs0 rs1 s0 s1) mmacls(rs0 rs1 s0 s1) mmacuhs(rs0 rs1 s0 s1) mmaculs(rs0
    rs1 s0 s1) mmpyh(rs0 rs1 s0 s1) mmpyl(rs0 rs1 s0 s1) mmpyuh(rs0 rs1 s0 s1) mmpyul(rs0 rs1 s0
    s1) mnaci mpy(acc(hh(s0 s1) hl(s0 s1) lh(s0 s1) ll(s0 s1) sat(hh(s0 s1) hl(s0 s1) lh(s0 s1)
    ll(s0 s1))) hh(s0 s1) hl(s0 s1) lh(s0 s1) ll(s0 s1) nac(hh(s0 s1) hl(s0 s1) lh(s0 s1) ll(s0 s1)
    sat(hh(s0 s1) hl(s0 s1) lh(s0 s1) ll(s0 s1))) rnd(hh(s0 s1) hl(s0 s1) lh(s0 s1) ll(s0 s1))
    sat(hh(s0 s1) hl(s0 s1) lh(s0 s1) ll(s0 s1) rnd(hh(s0 s1) hl(s0 s1) lh(s0 s1) ll(s0 s1)))
    up!(s1!(sat))) mpyd(acc(hh(s0 s1) hl(s0 s1) lh(s0 s1) ll(s0 s1)) hh(s0 s1) hl(s0 s1) lh(s0 s1)
    ll(s0 s1) nac(hh(s0 s1) hl(s0 s1) lh(s0 s1) ll(s0 s1)) rnd(hh(s0 s1) hl(s0 s1) lh(s0 s1) ll(s0
    s1))) mpyi mpysmi mpysu.up mpyu(acc(hh(s0 s1) hl(s0 s1) lh(s0 s1) ll(s0 s1)) hh(s0 s1) hl(s0
    s1) lh(s0 s1) ll(s0 s1) nac(hh(s0 s1) hl(s0 s1) lh(s0 s1) ll(s0 s1)) up) mpyud(acc(hh(s0 s1)
    hl(s0 s1) lh(s0 s1) ll(s0 s1)) hh(s0 s1) hl(s0 s1) lh(s0 s1) ll(s0 s1) nac(hh(s0 s1) hl(s0 s1)
    lh(s0 s1) ll(s0 s1))) mpyui nacci naccii subacc vabsdiffh vabsdiffw vcmac.s0.sat(i r)
    vcmpy(s0.sat(i r) s1.sat(i r)) vdmacs(s0 s1) vdmpyrs(s0 s1) vdmpys(s0 s1) vmac2 vmac2es!(s0 s1)
    vmac2s(s0 s1) vmac2su(s0 s1) vmpy2es(s0 s1) vmpy2s(s0 s0pack s1 s1pack) vmpy2su(s0 s1) vraddh
    vradduh vrcmaci(s0 s0c) vrcmacr(s0 s0c) vrcmpyi(s0 s0c) vrcmpyr(s0 s0c) vrcmpys(acc.s1 s1 s1rp)
    vrmac.s0 vrmpy.s0 xor.xacc) M4(and(and andn or xor) cmpyi(wh whc) cmpyr(wh whc) mac.up.s1.sat
    mpyri(addi addr!(u2)) mpyrr(addi addr) nac.up.s1.sat or(and andn or xor) pmpyw!(acc)
    vpmpyh!(acc) vrmpyeh(acc(s0 s1) s0 s1) vrmpyoh(acc(s0 s1) s0 s1) xor(and andn or xacc))
    M5(vdmacbsu vdmpybsu vmacbsu vmacbuu vmpybsu vmpybuu vrmacbsu vrmacbuu vrmpybsu vrmpybuu)
    M6(vabsdiffb vabsdiffub) M7(dcmpyiw!(acc) dcmpyiwc!(acc) dcmpyrw!(acc) dcmpyrwc!(acc)
    vdmpy!(acc) wcmpyiw!(rnd) wcmpyiwc!(rnd) wcmpyrw!(rnd) wcmpyrwc!(rnd)) S2(addasl.rrri
    asl(i(p!(acc and nac or xacc) r!(acc and nac or sat xacc) vh vw) r(p!(acc and nac or xor)
    r!(acc and nac or sat) vh vw)) asr(i(p!(acc and nac or rnd!(goodsyntax)) r!(acc and nac or
    rnd!(goodsyntax)) svw.trun vh vw) r(p!(acc and nac or xor) r!(acc and nac or sat) svw.trun vh
    vw)) brev brevp cl0 cl0p cl1 cl1p clb clbnorm clbp clrbit(i r) ct0 ct0p ct1 ct1p deinterleave
    extractu!(rp) extractup!(rp) insert!(rp) insertp!(rp) interleave lfsp lsl.r(p!(acc and nac or
    xor) r!(acc and nac or) vh vw) lsr(i(p!(acc and nac or xacc) r!(acc and nac or xacc) vh vw)
    r(p!(acc and nac or xor) r!(acc and nac or) vh vw)) mask packhl parityp setbit(i r) shuffeb
    shuffeh shuffob shuffoh storerb(pbr pci pcr) storerd(pbr pci pcr) storerf(pbr pci pcr)
    storerh(pbr pci pcr) storeri(pbr pci pcr) storew.locked svsathb svsathub tableidxb.goodsyntax
    tableidxd.goodsyntax tableidxh.goodsyntax tableidxw.goodsyntax togglebit(i r) tstbit(i r)
    valignib valignrb vcnegh vcrotate vrcnegh vrndpackwh vrndpackwhs vsathb!(nopack)
    vsathub!(nopack) vsatwh!(nopack) vsatwuh!(nopack) vsplatrb vsplatrh vspliceib vsplicerb vsxtbh
    vsxthw vtrunehb vtrunewh vtrunohb vtrunowh vzxtbh vzxthw) S4(addaddi addi(asl.ri lsr.ri)
    andi(asl.ri lsr.ri) clbaddi clbpaddi clbpnorm extract!(rp) extractp!(rp) lsli ntstbit(i r)
    or(andi andix ori) ori(asl.ri lsr.ri) parity stored.locked subaddi subi(asl.ri lsr.ri)
    vrcrotate!(acc) vxaddsubh vxaddsubhr vxaddsubw vxsubaddh vxsubaddhr vxsubaddw)
    S5(asrhub(rnd.sat.goodsyntax sat) popcountp vasrhrnd.goodsyntax) S6(rol.i(p!(acc and nac or
    xacc) r!(acc and nac or xacc)) vsplatrbp vtrunehb.ppp vtrunohb.ppp) V6(extractw!(128B)
    get.qfext!(128B oracc!(128B)) hi!(128B) lo!(128B) lvsplatb!(128B) lvsplath!(128B)
    lvsplatw!(128B) pred(and!(128B n!(128B)) not!(128B) or!(128B n!(128B)) scalar2!(128B)
    scalar2v2!(128B) typecast*(128B*) xor!(128B)) set.qfext!(128B) shuffeqh!(128B) shuffeqw!(128B)
    v6mpyhubs10!(128B vxx!(128B)) v6mpyvubs10!(128B vxx!(128B)) vL32b(npred(ai!(128B) pi!(128B)
    ppu!(128B)) nt(npred(ai!(128B) pi!(128B) ppu!(128B)) pred(ai!(128B) pi!(128B) ppu!(128B)))
    pred(ai!(128B) pi!(128B) ppu!(128B))) vS32Ub(npred(ai!(128B) pi!(128B) ppu!(128B))
    pred(ai!(128B) pi!(128B) ppu!(128B))) vS32b(npred(ai!(128B) pi!(128B) ppu!(128B))
    nqpred.ai!(128B) nt(npred(ai!(128B) pi!(128B) ppu!(128B)) nqpred.ai!(128B) pred(ai!(128B)
    pi!(128B) ppu!(128B)) qpred.ai!(128B)) pred(ai!(128B) pi!(128B) ppu!(128B)) qpred.ai!(128B))
    vabs(f8!(128B) hf!(128B) qf16(hf!(128B) qf16!(128B)) qf32(qf32!(128B) sf!(128B)) sf!(128B))
    vabsb!(128B sat!(128B)) vabsdiffh!(128B) vabsdiffub!(128B) vabsdiffuh!(128B) vabsdiffw!(128B)
    vabsh!(128B sat!(128B)) vabsw!(128B sat!(128B)) vadd(hf!(128B f8!(128B) hf!(128B)) qf16!(128B
    mix!(128B)) qf32!(128B mix!(128B)) sf!(128B bf!(128B) hf!(128B) sf!(128B))) vaddb!(128B
    dv!(128B)) vaddbnq!(128B) vaddbq!(128B) vaddbsat!(128B dv!(128B)) vaddcarry!(128B)
    vaddcarryo!(128B) vaddcarrysat!(128B) vaddclbh!(128B) vaddclbw!(128B) vaddh!(128B dv!(128B))
    vaddhnq!(128B) vaddhq!(128B) vaddhsat!(128B dv!(128B)) vaddhw!(128B acc!(128B)) vaddubh!(128B
    acc!(128B)) vaddubsat!(128B dv!(128B)) vaddububb.sat!(128B) vadduhsat!(128B dv!(128B))
    vadduhw!(128B acc!(128B)) vadduwsat!(128B dv!(128B)) vaddw!(128B dv!(128B)) vaddwnq!(128B)
    vaddwq!(128B) vaddwsat!(128B dv!(128B)) valign4!(128B) valignb!(128B) valignbi!(128B)
    vand!(128B) vandnqrt!(128B acc!(128B)) vandqrt!(128B acc!(128B)) vandvnqv!(128B) vandvqv!(128B)
    vandvrt!(128B acc!(128B)) vaslh!(128B acc!(128B)) vaslhv!(128B) vaslw!(128B acc!(128B))
    vaslwv!(128B) vasr.into!(128B) vasrh!(128B acc!(128B)) vasrhbrndsat!(128B) vasrhbsat!(128B)
    vasrhubrndsat!(128B) vasrhubsat!(128B) vasrhv!(128B) vasruhubrndsat!(128B) vasruhubsat!(128B)
    vasruwuhrndsat!(128B) vasruwuhsat!(128B) vasrvuhubrndsat!(128B) vasrvuhubsat!(128B)
    vasrvwuhrndsat!(128B) vasrvwuhsat!(128B) vasrw!(128B acc!(128B)) vasrwh!(128B)
    vasrwhrndsat!(128B) vasrwhsat!(128B) vasrwuhrndsat!(128B) vasrwuhsat!(128B) vasrwv!(128B)
    vassign!(128B fp!(128B)) vassignp!(128B) vavgb!(128B) vavgbrnd!(128B) vavgh!(128B)
    vavghrnd!(128B) vavgub!(128B) vavgubrnd!(128B) vavguh!(128B) vavguhrnd!(128B) vavguw!(128B)
    vavguwrnd!(128B) vavgw!(128B) vavgwrnd!(128B) vcl0h!(128B) vcl0w!(128B) vcombine!(128B)
    vconv(bf.qf32!(128B) f8.qf16!(128B) h.hf!(128B rnd!(128B)) hf(h!(128B) qf16!(128B) qf32!(128B))
    qf16(f8!(128B) hf!(128B) qf16!(128B)) qf32(qf32!(128B) sf!(128B)) sf(qf32!(128B) w!(128B))
    w.sf!(128B)) vcvt(b.hf!(128B) bf.sf!(128B) f8.hf!(128B) h.hf!(128B) hf(b!(128B) f8!(128B)
    h!(128B) sf!(128B) ub!(128B) uh!(128B)) sf.hf!(128B) ub.hf!(128B) uh.hf!(128B))
    vcvt2(b.hf!(128B) hf(b!(128B) ub!(128B)) ub.hf!(128B)) vd0!(128B) vdd0!(128B) vdealb!(128B)
    vdealb4w!(128B) vdealh!(128B) vdealvdd!(128B) vdelta!(128B) vdmpy.sf.hf!(128B acc!(128B))
    vdmpybus!(128B acc!(128B) dv!(128B acc!(128B))) vdmpyhb!(128B acc!(128B) dv!(128B acc!(128B)))
    vdmpyhisat!(128B acc!(128B)) vdmpyhsat!(128B acc!(128B)) vdmpyhsuisat!(128B acc!(128B))
    vdmpyhsusat!(128B acc!(128B)) vdmpyhvsat!(128B acc!(128B)) vdsaduh!(128B acc!(128B)) veqb!(128B
    and!(128B) or!(128B) xor!(128B)) veqh!(128B and!(128B) or!(128B) xor!(128B)) veqhf!(128B
    and!(128B) or!(128B) xor!(128B)) veqsf!(128B and!(128B) or!(128B) xor!(128B)) veqw!(128B
    and!(128B) or!(128B) xor!(128B)) vfmax(f8!(128B) hf!(128B) sf!(128B)) vfmin(f8!(128B) hf!(128B)
    sf!(128B)) vfneg(f8!(128B) hf!(128B) sf!(128B)) vgather.vscattermh!(128B) vgathermh!(128B)
    vgathermhq!(128B) vgathermhw!(128B) vgathermhwq!(128B) vgathermw!(128B) vgathermwq!(128B)
    vgtb!(128B and!(128B) or!(128B) xor!(128B)) vgtbf!(128B and!(128B) or!(128B) xor!(128B))
    vgth!(128B and!(128B) or!(128B) xor!(128B)) vgthf!(128B and!(128B) or!(128B) xor!(128B))
    vgtsf!(128B and!(128B) or!(128B) xor!(128B)) vgtub!(128B and!(128B) or!(128B) xor!(128B))
    vgtuh!(128B and!(128B) or!(128B) xor!(128B)) vgtuw!(128B and!(128B) or!(128B) xor!(128B))
    vgtw!(128B and!(128B) or!(128B) xor!(128B)) vilog2(hf!(128B) qf16!(128B) qf32!(128B) sf!(128B))
    vinsertwr!(128B) vlalignb!(128B) vlalignbi!(128B) vlsrb!(128B) vlsrh!(128B) vlsrhv!(128B)
    vlsrw!(128B) vlsrwv!(128B) vlut4!(128B) vlutvvb!(128B nm!(128B) oracc!(128B) oracci!(128B))
    vlutvvbi!(128B) vlutvwh!(128B nm!(128B) oracc!(128B) oracci!(128B)) vlutvwhi!(128B)
    vmaskedstorenq!(128B) vmaskedstorentnq!(128B) vmaskedstorentq!(128B) vmaskedstoreq!(128B)
    vmax(bf!(128B) hf!(128B) sf!(128B)) vmaxb!(128B) vmaxh!(128B) vmaxub!(128B) vmaxuh!(128B)
    vmaxw!(128B) vmerge.qf!(128B) vmin(bf!(128B) hf!(128B) sf!(128B)) vminb!(128B) vminh!(128B)
    vminub!(128B) vminuh!(128B) vminw!(128B) vmpabus!(128B acc!(128B)) vmpabusv!(128B)
    vmpabuu!(128B acc!(128B)) vmpabuuv!(128B) vmpahb!(128B acc!(128B)) vmpahhsat!(128B)
    vmpauhb!(128B acc!(128B)) vmpauhuhsat!(128B) vmpsuhuhsat!(128B) vmpy(hf(f8!(128B acc!(128B))
    hf!(128B acc!(128B))) qf16!(128B hf!(128B) mix.hf!(128B)) qf32!(128B hf!(128B) mix.hf!(128B)
    qf16!(128B) sf!(128B)) rt(hf!(128B) qf16!(128B) sf!(128B)) sf(bf!(128B acc!(128B)) hf!(128B
    acc!(128B)) sf!(128B))) vmpybus!(128B acc!(128B)) vmpybusv!(128B acc!(128B)) vmpybv!(128B
    acc!(128B)) vmpyewuh!(128B 64!(128B)) vmpyh!(128B acc!(128B)) vmpyhsat.acc!(128B)
    vmpyhsrs!(128B) vmpyhss!(128B) vmpyhus!(128B acc!(128B)) vmpyhv!(128B acc!(128B))
    vmpyhvsrs!(128B) vmpyieoh!(128B) vmpyiewh.acc!(128B) vmpyiewuh!(128B acc!(128B)) vmpyih!(128B
    acc!(128B)) vmpyihb!(128B acc!(128B)) vmpyiowh!(128B) vmpyiwb!(128B acc!(128B)) vmpyiwh!(128B
    acc!(128B)) vmpyiwub!(128B acc!(128B)) vmpyowh!(128B 64.acc!(128B) rnd!(128B sacc!(128B))
    sacc!(128B)) vmpyss.parts*(128B*) vmpyub!(128B acc!(128B)) vmpyubv!(128B acc!(128B))
    vmpyuh!(128B acc!(128B)) vmpyuhe!(128B acc!(128B)) vmpyuhv!(128B acc!(128B)) vmpyuhvs!(128B)
    vmpyus.parts*(128B*) vmpyuu.parts*(128B*) vmux!(128B) vnavgb!(128B) vnavgh!(128B)
    vnavgub!(128B) vnavgw!(128B) vneg(qf16(hf!(128B) qf16!(128B)) qf32(qf32!(128B) sf!(128B)))
    vnormamth!(128B) vnormamtw!(128B) vnot!(128B) vor!(128B) vpackeb!(128B) vpackeh!(128B)
    vpackhb.sat!(128B) vpackhub.sat!(128B) vpackob!(128B) vpackoh!(128B) vpackwh.sat!(128B)
    vpackwuh.sat!(128B) vpopcounth!(128B) vprefixqb!(128B) vprefixqh!(128B) vprefixqw!(128B)
    vrdelta!(128B) vrmpybub.rtt!(128B acc!(128B)) vrmpybus!(128B acc!(128B)) vrmpybusi!(128B
    acc!(128B)) vrmpybusv!(128B acc!(128B)) vrmpybv!(128B acc!(128B)) vrmpyub!(128B acc!(128B)
    rtt!(128B acc!(128B))) vrmpyubi!(128B acc!(128B)) vrmpyubv!(128B acc!(128B)) vror!(128B)
    vrotr!(128B) vroundhb!(128B) vroundhub!(128B) vrounduhub!(128B) vrounduwuh!(128B)
    vroundwh!(128B) vroundwuh!(128B) vrsadubi!(128B acc!(128B)) vsatdw!(128B) vsathub!(128B)
    vsatuwuh!(128B) vsatwh!(128B) vsb!(128B) vscattermh!(128B add!(128B)) vscattermhq!(128B)
    vscattermhw!(128B add!(128B)) vscattermhwq!(128B) vscattermw!(128B add!(128B))
    vscattermwq!(128B) vsh!(128B) vshufeh!(128B) vshuffb!(128B) vshuffeb!(128B) vshuffh!(128B)
    vshuffob!(128B) vshuffvdd!(128B) vshufoeb!(128B) vshufoeh!(128B) vshufoh!(128B) vsub(hf!(128B
    f8!(128B) hf!(128B) mix!(128B)) qf16!(128B mix!(128B)) qf32!(128B mix!(128B)) sf!(128B
    bf!(128B) hf!(128B) mix!(128B) sf!(128B))) vsubb!(128B dv!(128B)) vsubbnq!(128B) vsubbq!(128B)
    vsubbsat!(128B dv!(128B)) vsubcarry!(128B) vsubcarryo!(128B) vsubh!(128B dv!(128B))
    vsubhnq!(128B) vsubhq!(128B) vsubhsat!(128B dv!(128B)) vsubhw!(128B) vsububh!(128B)
    vsububsat!(128B dv!(128B)) vsubububb.sat!(128B) vsubuhsat!(128B dv!(128B)) vsubuhw!(128B)
    vsubuwsat!(128B dv!(128B)) vsubw!(128B dv!(128B)) vsubwnq!(128B) vsubwq!(128B) vsubwsat!(128B
    dv!(128B)) vswap!(128B) vtmpyb!(128B acc!(128B)) vtmpybus!(128B acc!(128B)) vtmpyhb!(128B
    acc!(128B)) vunpackb!(128B) vunpackh!(128B) vunpackob!(128B) vunpackoh!(128B) vunpackub!(128B)
    vunpackuh!(128B) vxor!(128B) vzb!(128B) vzh!(128B)) Y2(dccleana dccleaninva dcfetch dcinva
    dczeroa) Y4.l2fetch Y5.l2fetch Y6(dmlink dmpause dmpoll dmresume dmstart dmwait) circ(ldb ldd
    ldh ldub lduh ldw stb std sth sthhi stw) instrprof.custom prefetch vmemcpy vmemset)"

end Reckoner.Llvm.Intrinsic.Table
