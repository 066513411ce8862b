/-! Names that start with `riscv`, in the form that `Listing` reads. -/
namespace Reckoner.Llvm.Intrinsic.Table

def riscV : String :=
  "riscv(aes32dsi aes32dsmi aes32esi aes32esmi aes64ds aes64dsm aes64es aes64esm aes64im aes64ks1i
    aes64ks2 brev8* clmul* clmulh* clmulr* cv(alu(addN addRN adduN adduRN clip clipu subN subRN
    subuN subuRN) bitmanip(bclr bitrev bset clb extract extractu insert) elw.elw mac(mac machhsN
    machhsRN machhuN machhuRN macsN macsRN macuN macuRN msu mulhhsN mulhhsRN mulhhuN mulhhuRN mulsN
    mulsRN muluN muluRN)) masked(atomicrmw(add* max* min* nand* sub* umax* umin* xchg*) cmpxchg*)
    mips(ehb ihb pause) mopr* moprr* nds(ffb* ffmism* ffzmism* flmism* vd4dots*(mask*)
    vd4dotsu*(mask*) vd4dotu*(mask*) vfncvt.bf16.s* vfpmadb*(mask*) vfpmadt*(mask*) vfwcvt.s.bf16*
    vln*(mask*) vlnu*(mask*)) orc.b* pause seg2(load.mask* store.mask*) seg3(load.mask*
    store.mask*) seg4(load.mask* store.mask*) seg5(load.mask* store.mask*) seg6(load.mask*
    store.mask*) seg7(load.mask* store.mask*) seg8(load.mask* store.mask*) sf(mm(e4m3(e4m3* e5m2*)
    e5m2(e4m3* e5m2*) f.f* s(s* u*) u(s* u*)) vc(fv.se* fvv.se* fvw.se* i.se* iv.se* ivv.se*
    ivw.se* v(fv*(se*) fvv*(se*) fvw*(se*) i*(se*) iv*(se*) ivv*(se*) ivw*(se*) vv*(se*) vvv*(se*)
    vvw*(se*) x*(se*) xv*(se*) xvv*(se*) xvw*(se*)) vv.se* vvv.se* vvw.se* x.se* xv.se* xvv.se*
    xvw.se*) vfexp*(mask*) vfexpa*(mask*) vfnrclip(x.f.qf*(mask*) xu.f.qf*(mask*)) vfwmacc.4x4x4*
    vlte16* vlte32* vlte64* vlte8* vqmacc(2x8x2* 4x8x4*) vqmaccsu(2x8x2* 4x8x4*) vqmaccu(2x8x2*
    4x8x4*) vqmaccus(2x8x2* 4x8x4*) vsettk* vsettm* vsettnt* vste16* vste32* vste64* vste8*
    vtdiscard vtmv(t.v* v.t*) vtzero.t*) sha256sig0 sha256sig1 sha256sum0 sha256sum1 sha512sig0
    sha512sig0h sha512sig0l sha512sig1 sha512sig1h sha512sig1l sha512sum0 sha512sum0r sha512sum1
    sha512sum1r sm3p0 sm3p1 sm4ed sm4ks sseg2(load.mask* store.mask*) sseg3(load.mask* store.mask*)
    sseg4(load.mask* store.mask*) sseg5(load.mask* store.mask*) sseg6(load.mask* store.mask*)
    sseg7(load.mask* store.mask*) sseg8(load.mask* store.mask*) th(vmaqa*(mask*) vmaqasu*(mask*)
    vmaqau*(mask*) vmaqaus*(mask*)) tuple(extract* insert*) unzip* vaadd*(mask*) vaaddu*(mask*)
    vadc* vadd*(mask*) vaesdf(vs* vv*) vaesdm(vs* vv*) vaesef(vs* vv*) vaesem(vs* vv*) vaeskf1*
    vaeskf2* vaesz.vs* vand*(mask*) vandn*(mask*) vasub*(mask*) vasubu*(mask*) vbrev*(mask*)
    vbrev8*(mask*) vclmul*(mask*) vclmulh*(mask*) vclz*(mask*) vcompress* vcpop*(mask*)
    vcpopv*(mask*) vctz*(mask*) vdiv*(mask*) vdivu*(mask*) vfadd*(mask*) vfclass*(mask*)
    vfcvt(f(x.v*(mask*) xu.v*(mask*)) rtz(x.f.v*(mask*) xu.f.v*(mask*)) x.f.v*(mask*)
    xu.f.v*(mask*)) vfdiv*(mask*) vfirst*(mask*) vfmacc*(mask*) vfmadd*(mask*) vfmax*(mask*)
    vfmerge* vfmin*(mask*) vfmsac*(mask*) vfmsub*(mask*) vfmul*(mask*) vfmv(f.s* s.f* v.f*)
    vfncvt(f(f(q*(alt*(mask*) mask*) w*(alt*(mask*) mask*)) x.w*(mask*) xu.w*(mask*))
    rod.f.f.w*(mask*) rtz(x.f.w*(mask*) xu.f.w*(mask*)) sat.f.f(q*(alt*(mask*) mask*)
    w*(alt*(mask*) mask*)) x.f.w*(mask*) xu.f.w*(mask*)) vfncvtbf16.f.f.w*(mask*) vfnmacc*(mask*)
    vfnmadd*(mask*) vfnmsac*(mask*) vfnmsub*(mask*) vfrdiv*(mask*) vfrec7*(mask*) vfredmax*(mask*)
    vfredmin*(mask*) vfredosum*(mask*) vfredusum*(mask*) vfrsqrt7*(mask*) vfrsub*(mask*)
    vfsgnj*(mask*) vfsgnjn*(mask*) vfsgnjx*(mask*) vfslide1down*(mask*) vfslide1up*(mask*)
    vfsqrt*(mask*) vfsub*(mask*) vfwadd*(mask* w*(mask*)) vfwcvt(f(f.v*(alt*(mask*) mask*)
    x.v*(mask*) xu.v*(mask*)) rtz(x.f.v*(mask*) xu.f.v*(mask*)) x.f.v*(mask*) xu.f.v*(mask*))
    vfwcvtbf16.f.f.v*(mask*) vfwmacc*(mask*) vfwmaccbf16*(mask*) vfwmsac*(mask*) vfwmul*(mask*)
    vfwnmacc*(mask*) vfwnmsac*(mask*) vfwredosum*(mask*) vfwredusum*(mask*) vfwsub*(mask*
    w*(mask*)) vghsh* vgmul.vv* vid*(mask*) viota*(mask*) vle*(mask*) vleff*(mask*) vlm*
    vloxei*(mask*) vloxseg2*(mask*) vloxseg3*(mask*) vloxseg4*(mask*) vloxseg5*(mask*)
    vloxseg6*(mask*) vloxseg7*(mask*) vloxseg8*(mask*) vlse*(mask*) vlseg2*(mask*) vlseg2ff*(mask*)
    vlseg3*(mask*) vlseg3ff*(mask*) vlseg4*(mask*) vlseg4ff*(mask*) vlseg5*(mask*) vlseg5ff*(mask*)
    vlseg6*(mask*) vlseg6ff*(mask*) vlseg7*(mask*) vlseg7ff*(mask*) vlseg8*(mask*) vlseg8ff*(mask*)
    vlsseg2*(mask*) vlsseg3*(mask*) vlsseg4*(mask*) vlsseg5*(mask*) vlsseg6*(mask*) vlsseg7*(mask*)
    vlsseg8*(mask*) vluxei*(mask*) vluxseg2*(mask*) vluxseg3*(mask*) vluxseg4*(mask*)
    vluxseg5*(mask*) vluxseg6*(mask*) vluxseg7*(mask*) vluxseg8*(mask*) vmacc*(mask*)
    vmadc*(carry.in*) vmadd*(mask*) vmand* vmandn* vmax*(mask*) vmaxu*(mask*) vmclr* vmerge*
    vmfeq*(mask*) vmfge*(mask*) vmfgt*(mask*) vmfle*(mask*) vmflt*(mask*) vmfne*(mask*)
    vmin*(mask*) vminu*(mask*) vmnand* vmnor* vmor* vmorn* vmsbc*(borrow.in*) vmsbf*(mask*)
    vmseq*(mask*) vmset* vmsge*(mask*) vmsgeu*(mask*) vmsgt*(mask*) vmsgtu*(mask*) vmsif*(mask*)
    vmsle*(mask*) vmsleu*(mask*) vmslt*(mask*) vmsltu*(mask*) vmsne*(mask*) vmsof*(mask*)
    vmul*(mask*) vmulh*(mask*) vmulhsu*(mask*) vmulhu*(mask*) vmv(s.x* v(v* x*) x.s*) vmxnor*
    vmxor* vnclip*(mask*) vnclipu*(mask*) vnmsac*(mask*) vnmsub*(mask*) vnsra*(mask*) vnsrl*(mask*)
    vor*(mask*) vqdot*(mask*) vqdotsu*(mask*) vqdotu*(mask*) vqdotus*(mask*) vredand*(mask*)
    vredmax*(mask*) vredmaxu*(mask*) vredmin*(mask*) vredminu*(mask*) vredor*(mask*)
    vredsum*(mask*) vredxor*(mask*) vrem*(mask*) vremu*(mask*) vrev8*(mask*) vrgather(vv*(mask*)
    vx*(mask*)) vrgatherei16.vv*(mask*) vrol*(mask*) vror*(mask*) vrsub*(mask*) vsadd*(mask*)
    vsaddu*(mask*) vsbc* vse*(mask*) vsetvli* vsetvlimax* vsext*(mask*) vsha2ch* vsha2cl* vsha2ms*
    vslide1down*(mask*) vslide1up*(mask*) vslidedown*(mask*) vslideup*(mask*) vsll*(mask*) vsm*
    vsm3c* vsm3me* vsm4k* vsm4r(vs* vv*) vsmul*(mask*) vsoxei*(mask*) vsoxseg2*(mask*)
    vsoxseg3*(mask*) vsoxseg4*(mask*) vsoxseg5*(mask*) vsoxseg6*(mask*) vsoxseg7*(mask*)
    vsoxseg8*(mask*) vsra*(mask*) vsrl*(mask*) vsse*(mask*) vsseg2*(mask*) vsseg3*(mask*)
    vsseg4*(mask*) vsseg5*(mask*) vsseg6*(mask*) vsseg7*(mask*) vsseg8*(mask*) vssra*(mask*)
    vssrl*(mask*) vssseg2*(mask*) vssseg3*(mask*) vssseg4*(mask*) vssseg5*(mask*) vssseg6*(mask*)
    vssseg7*(mask*) vssseg8*(mask*) vssub*(mask*) vssubu*(mask*) vsub*(mask*) vsuxei*(mask*)
    vsuxseg2*(mask*) vsuxseg3*(mask*) vsuxseg4*(mask*) vsuxseg5*(mask*) vsuxseg6*(mask*)
    vsuxseg7*(mask*) vsuxseg8*(mask*) vwadd*(mask* w*(mask*)) vwaddu*(mask* w*(mask*))
    vwmacc*(mask*) vwmaccsu*(mask*) vwmaccu*(mask*) vwmaccus*(mask*) vwmul*(mask*) vwmulsu*(mask*)
    vwmulu*(mask*) vwredsum*(mask*) vwredsumu*(mask*) vwsll*(mask*) vwsub*(mask* w*(mask*))
    vwsubu*(mask* w*(mask*)) vxor*(mask*) vzext*(mask*) xperm4* xperm8* zip*)"

end Reckoner.Llvm.Intrinsic.Table
