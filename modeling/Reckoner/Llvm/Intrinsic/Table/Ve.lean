/-! Names that start with `ve`, in the form that `Listing` reads. -/
namespace Reckoner.Llvm.Intrinsic.Table

def ve : String :=
  "ve.vl(andm(MMM mmm) eqvm(MMM mmm) extract(vm512l vm512u) fencec.s fencei fencem.s fidcr.sss
    insert(vm512l vm512u) lcr.sss lsv.vvss lvm(MMss mmss) lvsd.svs lvsl.svs lvss.svs lzvm.sml
    negm(MM mm) nndm(MMM mmm) orm(MMM mmm) pack(f32a f32p) pcvm.sml pfchv.ssl pfchvnc.ssl
    pvadds(vsvMvl vsvl vsvvl vvvMvl vvvl vvvvl) pvaddu(vsvMvl vsvl vsvvl vvvMvl vvvl vvvvl)
    pvand(vsvMvl vsvl vsvvl vvvMvl vvvl vvvvl) pvbrd(vsMvl vsl vsvl) pvbrv(vvMvl vvl vvvl)
    pvbrvlo(vvl vvmvl vvvl) pvbrvup(vvl vvmvl vvvl) pvcmps(vsvMvl vsvl vsvvl vvvMvl vvvl vvvvl)
    pvcmpu(vsvMvl vsvl vsvvl vvvMvl vvvl vvvvl) pvcvtsw(vvl vvvl) pvcvtws(vvMvl vvl vvvl)
    pvcvtwsrz(vvMvl vvl vvvl) pveqv(vsvMvl vsvl vsvvl vvvMvl vvvl vvvvl) pvfadd(vsvMvl vsvl vsvvl
    vvvMvl vvvl vvvvl) pvfcmp(vsvMvl vsvl vsvvl vvvMvl vvvl vvvvl) pvfmad(vsvvMvl vsvvl vsvvvl
    vvsvMvl vvsvl vvsvvl vvvvMvl vvvvl vvvvvl) pvfmax(vsvMvl vsvl vsvvl vvvMvl vvvl vvvvl)
    pvfmin(vsvMvl vsvl vsvvl vvvMvl vvvl vvvvl) pvfmkaf.Ml pvfmkat.Ml pvfmkseq(MvMl Mvl)
    pvfmkseqnan(MvMl Mvl) pvfmksge(MvMl Mvl) pvfmksgenan(MvMl Mvl) pvfmksgt(MvMl Mvl)
    pvfmksgtnan(MvMl Mvl) pvfmksle(MvMl Mvl) pvfmkslenan(MvMl Mvl) pvfmksloeq(mvl mvml)
    pvfmksloeqnan(mvl mvml) pvfmksloge(mvl mvml) pvfmkslogenan(mvl mvml) pvfmkslogt(mvl mvml)
    pvfmkslogtnan(mvl mvml) pvfmkslole(mvl mvml) pvfmkslolenan(mvl mvml) pvfmkslolt(mvl mvml)
    pvfmksloltnan(mvl mvml) pvfmkslonan(mvl mvml) pvfmkslone(mvl mvml) pvfmkslonenan(mvl mvml)
    pvfmkslonum(mvl mvml) pvfmkslt(MvMl Mvl) pvfmksltnan(MvMl Mvl) pvfmksnan(MvMl Mvl)
    pvfmksne(MvMl Mvl) pvfmksnenan(MvMl Mvl) pvfmksnum(MvMl Mvl) pvfmksupeq(mvl mvml)
    pvfmksupeqnan(mvl mvml) pvfmksupge(mvl mvml) pvfmksupgenan(mvl mvml) pvfmksupgt(mvl mvml)
    pvfmksupgtnan(mvl mvml) pvfmksuple(mvl mvml) pvfmksuplenan(mvl mvml) pvfmksuplt(mvl mvml)
    pvfmksupltnan(mvl mvml) pvfmksupnan(mvl mvml) pvfmksupne(mvl mvml) pvfmksupnenan(mvl mvml)
    pvfmksupnum(mvl mvml) pvfmkweq(MvMl Mvl) pvfmkweqnan(MvMl Mvl) pvfmkwge(MvMl Mvl)
    pvfmkwgenan(MvMl Mvl) pvfmkwgt(MvMl Mvl) pvfmkwgtnan(MvMl Mvl) pvfmkwle(MvMl Mvl)
    pvfmkwlenan(MvMl Mvl) pvfmkwloeq(mvl mvml) pvfmkwloeqnan(mvl mvml) pvfmkwloge(mvl mvml)
    pvfmkwlogenan(mvl mvml) pvfmkwlogt(mvl mvml) pvfmkwlogtnan(mvl mvml) pvfmkwlole(mvl mvml)
    pvfmkwlolenan(mvl mvml) pvfmkwlolt(mvl mvml) pvfmkwloltnan(mvl mvml) pvfmkwlonan(mvl mvml)
    pvfmkwlone(mvl mvml) pvfmkwlonenan(mvl mvml) pvfmkwlonum(mvl mvml) pvfmkwlt(MvMl Mvl)
    pvfmkwltnan(MvMl Mvl) pvfmkwnan(MvMl Mvl) pvfmkwne(MvMl Mvl) pvfmkwnenan(MvMl Mvl)
    pvfmkwnum(MvMl Mvl) pvfmkwupeq(mvl mvml) pvfmkwupeqnan(mvl mvml) pvfmkwupge(mvl mvml)
    pvfmkwupgenan(mvl mvml) pvfmkwupgt(mvl mvml) pvfmkwupgtnan(mvl mvml) pvfmkwuple(mvl mvml)
    pvfmkwuplenan(mvl mvml) pvfmkwuplt(mvl mvml) pvfmkwupltnan(mvl mvml) pvfmkwupnan(mvl mvml)
    pvfmkwupne(mvl mvml) pvfmkwupnenan(mvl mvml) pvfmkwupnum(mvl mvml) pvfmsb(vsvvMvl vsvvl vsvvvl
    vvsvMvl vvsvl vvsvvl vvvvMvl vvvvl vvvvvl) pvfmul(vsvMvl vsvl vsvvl vvvMvl vvvl vvvvl)
    pvfnmad(vsvvMvl vsvvl vsvvvl vvsvMvl vvsvl vvsvvl vvvvMvl vvvvl vvvvvl) pvfnmsb(vsvvMvl vsvvl
    vsvvvl vvsvMvl vvsvl vvsvvl vvvvMvl vvvvl vvvvvl) pvfsub(vsvMvl vsvl vsvvl vvvMvl vvvl vvvvl)
    pvldz(vvMvl vvl vvvl) pvldzlo(vvl vvmvl vvvl) pvldzup(vvl vvmvl vvvl) pvmaxs(vsvMvl vsvl vsvvl
    vvvMvl vvvl vvvvl) pvmins(vsvMvl vsvl vsvvl vvvMvl vvvl vvvvl) pvor(vsvMvl vsvl vsvvl vvvMvl
    vvvl vvvvl) pvpcnt(vvMvl vvl vvvl) pvpcntlo(vvl vvmvl vvvl) pvpcntup(vvl vvmvl vvvl) pvrcp(vvl
    vvvl) pvrsqrt(vvl vvvl) pvrsqrtnex(vvl vvvl) pvseq(vl vvl) pvseqlo(vl vvl) pvsequp(vl vvl)
    pvsla(vvsMvl vvsl vvsvl vvvMvl vvvl vvvvl) pvsll(vvsMvl vvsl vvsvl vvvMvl vvvl vvvvl)
    pvsra(vvsMvl vvsl vvsvl vvvMvl vvvl vvvvl) pvsrl(vvsMvl vvsl vvsvl vvvMvl vvvl vvvvl)
    pvsubs(vsvMvl vsvl vsvvl vvvMvl vvvl vvvvl) pvsubu(vsvMvl vsvl vsvvl vvvMvl vvvl vvvvl)
    pvxor(vsvMvl vsvl vsvvl vvvMvl vvvl vvvvl) scr.sss svm(sMs sms) svob tovm.sml tscr.ssss
    vaddsl(vsvl vsvmvl vsvvl vvvl vvvmvl vvvvl) vaddswsx(vsvl vsvmvl vsvvl vvvl vvvmvl vvvvl)
    vaddswzx(vsvl vsvmvl vsvvl vvvl vvvmvl vvvvl) vaddul(vsvl vsvmvl vsvvl vvvl vvvmvl vvvvl)
    vadduw(vsvl vsvmvl vsvvl vvvl vvvmvl vvvvl) vand(vsvl vsvmvl vsvvl vvvl vvvmvl vvvvl) vbrdd(vsl
    vsmvl vsvl) vbrdl(vsl vsmvl vsvl) vbrds(vsl vsmvl vsvl) vbrdw(vsl vsmvl vsvl) vbrv(vvl vvmvl
    vvvl) vcmpsl(vsvl vsvmvl vsvvl vvvl vvvmvl vvvvl) vcmpswsx(vsvl vsvmvl vsvvl vvvl vvvmvl vvvvl)
    vcmpswzx(vsvl vsvmvl vsvvl vvvl vvvmvl vvvvl) vcmpul(vsvl vsvmvl vsvvl vvvl vvvmvl vvvvl)
    vcmpuw(vsvl vsvmvl vsvvl vvvl vvvmvl vvvvl) vcp.vvmvl vcvtdl(vvl vvvl) vcvtds(vvl vvvl)
    vcvtdw(vvl vvvl) vcvtld(vvl vvmvl vvvl) vcvtldrz(vvl vvmvl vvvl) vcvtsd(vvl vvvl) vcvtsw(vvl
    vvvl) vcvtwdsx(vvl vvmvl vvvl) vcvtwdsxrz(vvl vvmvl vvvl) vcvtwdzx(vvl vvmvl vvvl)
    vcvtwdzxrz(vvl vvmvl vvvl) vcvtwssx(vvl vvmvl vvvl) vcvtwssxrz(vvl vvmvl vvvl) vcvtwszx(vvl
    vvmvl vvvl) vcvtwszxrz(vvl vvmvl vvvl) vdivsl(vsvl vsvmvl vsvvl vvsl vvsmvl vvsvl vvvl vvvmvl
    vvvvl) vdivswsx(vsvl vsvmvl vsvvl vvsl vvsmvl vvsvl vvvl vvvmvl vvvvl) vdivswzx(vsvl vsvmvl
    vsvvl vvsl vvsmvl vvsvl vvvl vvvmvl vvvvl) vdivul(vsvl vsvmvl vsvvl vvsl vvsmvl vvsvl vvvl
    vvvmvl vvvvl) vdivuw(vsvl vsvmvl vsvvl vvsl vvsmvl vvsvl vvvl vvvmvl vvvvl) veqv(vsvl vsvmvl
    vsvvl vvvl vvvmvl vvvvl) vex.vvmvl vfaddd(vsvl vsvmvl vsvvl vvvl vvvmvl vvvvl) vfadds(vsvl
    vsvmvl vsvvl vvvl vvvmvl vvvvl) vfcmpd(vsvl vsvmvl vsvvl vvvl vvvmvl vvvvl) vfcmps(vsvl vsvmvl
    vsvvl vvvl vvvmvl vvvvl) vfdivd(vsvl vsvmvl vsvvl vvvl vvvmvl vvvvl) vfdivs(vsvl vsvmvl vsvvl
    vvvl vvvmvl vvvvl) vfmadd(vsvvl vsvvmvl vsvvvl vvsvl vvsvmvl vvsvvl vvvvl vvvvmvl vvvvvl)
    vfmads(vsvvl vsvvmvl vsvvvl vvsvl vvsvmvl vvsvvl vvvvl vvvvmvl vvvvvl) vfmaxd(vsvl vsvmvl vsvvl
    vvvl vvvmvl vvvvl) vfmaxs(vsvl vsvmvl vsvvl vvvl vvvmvl vvvvl) vfmind(vsvl vsvmvl vsvvl vvvl
    vvvmvl vvvvl) vfmins(vsvl vsvmvl vsvvl vvvl vvvmvl vvvvl) vfmkdeq(mvl mvml) vfmkdeqnan(mvl
    mvml) vfmkdge(mvl mvml) vfmkdgenan(mvl mvml) vfmkdgt(mvl mvml) vfmkdgtnan(mvl mvml) vfmkdle(mvl
    mvml) vfmkdlenan(mvl mvml) vfmkdlt(mvl mvml) vfmkdltnan(mvl mvml) vfmkdnan(mvl mvml)
    vfmkdne(mvl mvml) vfmkdnenan(mvl mvml) vfmkdnum(mvl mvml) vfmklaf.ml vfmklat.ml vfmkleq(mvl
    mvml) vfmkleqnan(mvl mvml) vfmklge(mvl mvml) vfmklgenan(mvl mvml) vfmklgt(mvl mvml)
    vfmklgtnan(mvl mvml) vfmklle(mvl mvml) vfmkllenan(mvl mvml) vfmkllt(mvl mvml) vfmklltnan(mvl
    mvml) vfmklnan(mvl mvml) vfmklne(mvl mvml) vfmklnenan(mvl mvml) vfmklnum(mvl mvml) vfmkseq(mvl
    mvml) vfmkseqnan(mvl mvml) vfmksge(mvl mvml) vfmksgenan(mvl mvml) vfmksgt(mvl mvml)
    vfmksgtnan(mvl mvml) vfmksle(mvl mvml) vfmkslenan(mvl mvml) vfmkslt(mvl mvml) vfmksltnan(mvl
    mvml) vfmksnan(mvl mvml) vfmksne(mvl mvml) vfmksnenan(mvl mvml) vfmksnum(mvl mvml) vfmkweq(mvl
    mvml) vfmkweqnan(mvl mvml) vfmkwge(mvl mvml) vfmkwgenan(mvl mvml) vfmkwgt(mvl mvml)
    vfmkwgtnan(mvl mvml) vfmkwle(mvl mvml) vfmkwlenan(mvl mvml) vfmkwlt(mvl mvml) vfmkwltnan(mvl
    mvml) vfmkwnan(mvl mvml) vfmkwne(mvl mvml) vfmkwnenan(mvl mvml) vfmkwnum(mvl mvml) vfmsbd(vsvvl
    vsvvmvl vsvvvl vvsvl vvsvmvl vvsvvl vvvvl vvvvmvl vvvvvl) vfmsbs(vsvvl vsvvmvl vsvvvl vvsvl
    vvsvmvl vvsvvl vvvvl vvvvmvl vvvvvl) vfmuld(vsvl vsvmvl vsvvl vvvl vvvmvl vvvvl) vfmuls(vsvl
    vsvmvl vsvvl vvvl vvvmvl vvvvl) vfnmadd(vsvvl vsvvmvl vsvvvl vvsvl vvsvmvl vvsvvl vvvvl vvvvmvl
    vvvvvl) vfnmads(vsvvl vsvvmvl vsvvvl vvsvl vvsvmvl vvsvvl vvvvl vvvvmvl vvvvvl) vfnmsbd(vsvvl
    vsvvmvl vsvvvl vvsvl vvsvmvl vvsvvl vvvvl vvvvmvl vvvvvl) vfnmsbs(vsvvl vsvvmvl vsvvvl vvsvl
    vvsvmvl vvsvvl vvvvl vvvvmvl vvvvvl) vfrmaxdfst(vvl vvvl) vfrmaxdlst(vvl vvvl) vfrmaxsfst(vvl
    vvvl) vfrmaxslst(vvl vvvl) vfrmindfst(vvl vvvl) vfrmindlst(vvl vvvl) vfrminsfst(vvl vvvl)
    vfrminslst(vvl vvvl) vfsqrtd(vvl vvvl) vfsqrts(vvl vvvl) vfsubd(vsvl vsvmvl vsvvl vvvl vvvmvl
    vvvvl) vfsubs(vsvl vsvmvl vsvvl vvvl vvvmvl vvvvl) vfsumd(vvl vvml) vfsums(vvl vvml) vgt(vvssl
    vvssml vvssmvl vvssvl) vgtlsx(vvssl vvssml vvssmvl vvssvl) vgtlsxnc(vvssl vvssml vvssmvl
    vvssvl) vgtlzx(vvssl vvssml vvssmvl vvssvl) vgtlzxnc(vvssl vvssml vvssmvl vvssvl) vgtnc(vvssl
    vvssml vvssmvl vvssvl) vgtu(vvssl vvssml vvssmvl vvssvl) vgtunc(vvssl vvssml vvssmvl vvssvl)
    vld(vssl vssvl) vld2d(vssl vssvl) vld2dnc(vssl vssvl) vldl2dsx(vssl vssvl) vldl2dsxnc(vssl
    vssvl) vldl2dzx(vssl vssvl) vldl2dzxnc(vssl vssvl) vldlsx(vssl vssvl) vldlsxnc(vssl vssvl)
    vldlzx(vssl vssvl) vldlzxnc(vssl vssvl) vldnc(vssl vssvl) vldu(vssl vssvl) vldu2d(vssl vssvl)
    vldu2dnc(vssl vssvl) vldunc(vssl vssvl) vldz(vvl vvmvl vvvl) vmaxsl(vsvl vsvmvl vsvvl vvvl
    vvvmvl vvvvl) vmaxswsx(vsvl vsvmvl vsvvl vvvl vvvmvl vvvvl) vmaxswzx(vsvl vsvmvl vsvvl vvvl
    vvvmvl vvvvl) vminsl(vsvl vsvmvl vsvvl vvvl vvvmvl vvvvl) vminswsx(vsvl vsvmvl vsvvl vvvl
    vvvmvl vvvvl) vminswzx(vsvl vsvmvl vsvvl vvvl vvvmvl vvvvl) vmrg(vsvml vsvmvl vvvml vvvmvl)
    vmrgw(vsvMl vsvMvl vvvMl vvvMvl) vmulsl(vsvl vsvmvl vsvvl vvvl vvvmvl vvvvl) vmulslw(vsvl vsvvl
    vvvl vvvvl) vmulswsx(vsvl vsvmvl vsvvl vvvl vvvmvl vvvvl) vmulswzx(vsvl vsvmvl vsvvl vvvl
    vvvmvl vvvvl) vmulul(vsvl vsvmvl vsvvl vvvl vvvmvl vvvvl) vmuluw(vsvl vsvmvl vsvvl vvvl vvvmvl
    vvvvl) vmv(vsvl vsvmvl vsvvl) vor(vsvl vsvmvl vsvvl vvvl vvvmvl vvvvl) vpcnt(vvl vvmvl vvvl)
    vrand(vvl vvml) vrcpd(vvl vvvl) vrcps(vvl vvvl) vrmaxslfst(vvl vvvl) vrmaxsllst(vvl vvvl)
    vrmaxswfstsx(vvl vvvl) vrmaxswfstzx(vvl vvvl) vrmaxswlstsx(vvl vvvl) vrmaxswlstzx(vvl vvvl)
    vrminslfst(vvl vvvl) vrminsllst(vvl vvvl) vrminswfstsx(vvl vvvl) vrminswfstzx(vvl vvvl)
    vrminswlstsx(vvl vvvl) vrminswlstzx(vvl vvvl) vror(vvl vvml) vrsqrtd(vvl vvvl) vrsqrtdnex(vvl
    vvvl) vrsqrts(vvl vvvl) vrsqrtsnex(vvl vvvl) vrxor(vvl vvml) vsc(vvssl vvssml) vscl(vvssl
    vvssml) vsclnc(vvssl vvssml) vsclncot(vvssl vvssml) vsclot(vvssl vvssml) vscnc(vvssl vvssml)
    vscncot(vvssl vvssml) vscot(vvssl vvssml) vscu(vvssl vvssml) vscunc(vvssl vvssml)
    vscuncot(vvssl vvssml) vscuot(vvssl vvssml) vseq(vl vvl) vsfa(vvssl vvssmvl vvssvl) vshf(vvvsl
    vvvsvl) vslal(vvsl vvsmvl vvsvl vvvl vvvmvl vvvvl) vslawsx(vvsl vvsmvl vvsvl vvvl vvvmvl vvvvl)
    vslawzx(vvsl vvsmvl vvsvl vvvl vvvmvl vvvvl) vsll(vvsl vvsmvl vvsvl vvvl vvvmvl vvvvl)
    vsral(vvsl vvsmvl vvsvl vvvl vvvmvl vvvvl) vsrawsx(vvsl vvsmvl vvsvl vvvl vvvmvl vvvvl)
    vsrawzx(vvsl vvsmvl vvsvl vvvl vvvmvl vvvvl) vsrl(vvsl vvsmvl vvsvl vvvl vvvmvl vvvvl) vst(vssl
    vssml) vst2d(vssl vssml) vst2dnc(vssl vssml) vst2dncot(vssl vssml) vst2dot(vssl vssml)
    vstl(vssl vssml) vstl2d(vssl vssml) vstl2dnc(vssl vssml) vstl2dncot(vssl vssml) vstl2dot(vssl
    vssml) vstlnc(vssl vssml) vstlncot(vssl vssml) vstlot(vssl vssml) vstnc(vssl vssml)
    vstncot(vssl vssml) vstot(vssl vssml) vstu(vssl vssml) vstu2d(vssl vssml) vstu2dnc(vssl vssml)
    vstu2dncot(vssl vssml) vstu2dot(vssl vssml) vstunc(vssl vssml) vstuncot(vssl vssml) vstuot(vssl
    vssml) vsubsl(vsvl vsvmvl vsvvl vvvl vvvmvl vvvvl) vsubswsx(vsvl vsvmvl vsvvl vvvl vvvmvl
    vvvvl) vsubswzx(vsvl vsvmvl vsvvl vvvl vvvmvl vvvvl) vsubul(vsvl vsvmvl vsvvl vvvl vvvmvl
    vvvvl) vsubuw(vsvl vsvmvl vsvvl vvvl vvvmvl vvvvl) vsuml(vvl vvml) vsumwsx(vvl vvml)
    vsumwzx(vvl vvml) vxor(vsvl vsvmvl vsvvl vvvl vvvmvl vvvvl) xorm(MMM mmm))"

end Reckoner.Llvm.Intrinsic.Table
