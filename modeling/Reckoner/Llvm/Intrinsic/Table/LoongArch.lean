/-! Names that start with `loongarch`, in the form that `Listing` reads. -/
namespace Reckoner.Llvm.Intrinsic.Table

def loongArch : String :=
  "loongarch(asrtgt.d asrtle.d break cacop(d w) cpucfg crc.w(b.w d.w h.w w.w) crcc.w(b.w d.w h.w
    w.w) csrrd(d w) csrwr(d w) csrxchg(d w) dbar frecipe(d=1 s) frsqrte(d=1 s) ibar iocsrrd(b d h
    w) iocsrwr(b d h w) lasx(cast.128!(d s) concat.128!(d s) extract.128(hi!(d s) lo!(d s))
    insert.128(hi!(d s) lo!(d s)) vext2xv(d(b h w) du(bu hu wu) h.b hu.bu w(b h) wu(bu hu)) xbnz(b
    d h v w) xbz(b d h v w) xvabsd(b bu d du h hu w wu) xvadd(b d h q w) xvadda(b d h w) xvaddi(bu
    du hu wu) xvaddwev(d(w wu!(w)) h(b bu!(b)) q(d du!(d)) w(h hu!(h))) xvaddwod(d(w wu!(w)) h(b
    bu!(b)) q(d du!(d)) w(h hu!(h))) xvand.v xvandi.b xvandn.v xvavg(b bu d du h hu w wu) xvavgr(b
    bu d du h hu w wu) xvbitclr(b d h w) xvbitclri(b d h w) xvbitrev(b d h w) xvbitrevi(b d h w)
    xvbitsel.v xvbitseli.b xvbitset(b d h w) xvbitseti(b d h w) xvbsll.v xvbsrl.v xvclo(b d h w)
    xvclz(b d h w) xvdiv(b bu d du h hu w wu) xvexth(d.w du.wu h.b hu.bu q.d qu.du w.h wu.hu)
    xvextl(q.d qu.du) xvextrins(b d h w) xvfadd(d s) xvfclass(d s) xvfcmp(caf(d s) ceq(d s) cle(d
    s) clt(d s) cne(d s) cor(d s) cueq(d s) cule(d s) cult(d s) cun(d s) cune(d s) saf(d s) seq(d
    s) sle(d s) slt(d s) sne(d s) sor(d s) sueq(d s) sule(d s) sult(d s) sun(d s) sune(d s))
    xvfcvt(h.s s.d) xvfcvth(d.s s.h) xvfcvtl(d.s s.h) xvfdiv(d s) xvffint(d(l lu) s(l w wu))
    xvffinth.d.w xvffintl.d.w xvflogb(d s) xvfmadd(d s) xvfmax(d s) xvfmaxa(d s) xvfmin(d s)
    xvfmina(d s) xvfmsub(d s) xvfmul(d s) xvfnmadd(d s) xvfnmsub(d s) xvfrecip(d s) xvfrecipe(d s)
    xvfrint(d s) xvfrintrm(d s) xvfrintrne(d s) xvfrintrp(d s) xvfrintrz(d s) xvfrsqrt(d s)
    xvfrsqrte(d s) xvfrstp(b h) xvfrstpi(b h) xvfsqrt(d s) xvfsub(d s) xvftint(l.d lu.d w(d s)
    wu.s) xvftinth.l.s xvftintl.l.s xvftintrm(l.d w(d s)) xvftintrmh.l.s xvftintrml.l.s
    xvftintrne(l.d w(d s)) xvftintrneh.l.s xvftintrnel.l.s xvftintrp(l.d w(d s)) xvftintrph.l.s
    xvftintrpl.l.s xvftintrz(l.d lu.d w(d s) wu.s) xvftintrzh.l.s xvftintrzl.l.s xvhaddw(d.w du.wu
    h.b hu.bu q.d qu.du w.h wu.hu) xvhsubw(d.w du.wu h.b hu.bu q.d qu.du w.h wu.hu) xvilvh(b d h w)
    xvilvl(b d h w) xvinsgr2vr(d w) xvinsve0(d w) xvld xvldi xvldrepl(b d h w) xvldx xvmadd(b d h
    w) xvmaddwev(d(w wu!(w)) h(b bu!(b)) q(d du!(d)) w(h hu!(h))) xvmaddwod(d(w wu!(w)) h(b bu!(b))
    q(d du!(d)) w(h hu!(h))) xvmax(b bu d du h hu w wu) xvmaxi(b bu d du h hu w wu) xvmin(b bu d du
    h hu w wu) xvmini(b bu d du h hu w wu) xvmod(b bu d du h hu w wu) xvmskgez.b xvmskltz(b d h w)
    xvmsknz.b xvmsub(b d h w) xvmuh(b bu d du h hu w wu) xvmul(b d h w) xvmulwev(d(w wu!(w)) h(b
    bu!(b)) q(d du!(d)) w(h hu!(h))) xvmulwod(d(w wu!(w)) h(b bu!(b)) q(d du!(d)) w(h hu!(h)))
    xvneg(b d h w) xvnor.v xvnori.b xvor.v xvori.b xvorn.v xvpackev(b d h w) xvpackod(b d h w)
    xvpcnt(b d h w) xvperm.w xvpermi(d q w) xvpickev(b d h w) xvpickod(b d h w) xvpickve(d!(f)
    w!(f)) xvpickve2gr(d du w wu) xvrepl128vei(b d h w) xvreplgr2vr(b d h w) xvrepli(b d h w)
    xvreplve(b d h w) xvreplve0(b d h q w) xvrotr(b d h w) xvrotri(b d h w) xvsadd(b bu d du h hu w
    wu) xvsat(b bu d du h hu w wu) xvseq(b d h w) xvseqi(b d h w) xvshuf(b d h w) xvshuf4i(b d h w)
    xvsigncov(b d h w) xvsle(b bu d du h hu w wu) xvslei(b bu d du h hu w wu) xvsll(b d h w)
    xvslli(b d h w) xvsllwil(d.w du.wu h.b hu.bu w.h wu.hu) xvslt(b bu d du h hu w wu) xvslti(b bu
    d du h hu w wu) xvsra(b d h w) xvsrai(b d h w) xvsran(b.h h.w w.d) xvsrani(b.h d.q h.w w.d)
    xvsrar(b d h w) xvsrari(b d h w) xvsrarn(b.h h.w w.d) xvsrarni(b.h d.q h.w w.d) xvsrl(b d h w)
    xvsrli(b d h w) xvsrln(b.h h.w w.d) xvsrlni(b.h d.q h.w w.d) xvsrlr(b d h w) xvsrlri(b d h w)
    xvsrlrn(b.h h.w w.d) xvsrlrni(b.h d.q h.w w.d) xvssran(b.h bu.h h.w hu.w w.d wu.d) xvssrani(b.h
    bu.h d.q du.q h.w hu.w w.d wu.d) xvssrarn(b.h bu.h h.w hu.w w.d wu.d) xvssrarni(b.h bu.h d.q
    du.q h.w hu.w w.d wu.d) xvssrln(b.h bu.h h.w hu.w w.d wu.d) xvssrlni(b.h bu.h d.q du.q h.w hu.w
    w.d wu.d) xvssrlrn(b.h bu.h h.w hu.w w.d wu.d) xvssrlrni(b.h bu.h d.q du.q h.w hu.w w.d wu.d)
    xvssub(b bu d du h hu w wu) xvst xvstelm(b d h w) xvstx xvsub(b d h q w) xvsubi(bu du hu wu)
    xvsubwev(d(w wu) h(b bu) q(d du) w(h hu)) xvsubwod(d(w wu) h(b bu) q(d du) w(h hu)) xvxor.v
    xvxori.b) lddir.d ldpte.d lsx(bnz(b d h v w) bz(b d h v w) vabsd(b bu d du h hu w wu) vadd(b d
    h q w) vadda(b d h w) vaddi(bu du hu wu) vaddwev(d(w wu!(w)) h(b bu!(b)) q(d du!(d)) w(h
    hu!(h))) vaddwod(d(w wu!(w)) h(b bu!(b)) q(d du!(d)) w(h hu!(h))) vand.v vandi.b vandn.v vavg(b
    bu d du h hu w wu) vavgr(b bu d du h hu w wu) vbitclr(b d h w) vbitclri(b d h w) vbitrev(b d h
    w) vbitrevi(b d h w) vbitsel.v vbitseli.b vbitset(b d h w) vbitseti(b d h w) vbsll.v vbsrl.v
    vclo(b d h w) vclz(b d h w) vdiv(b bu d du h hu w wu) vexth(d.w du.wu h.b hu.bu q.d qu.du w.h
    wu.hu) vextl(q.d qu.du) vextrins(b d h w) vfadd(d s) vfclass(d s) vfcmp(caf(d s) ceq(d s) cle(d
    s) clt(d s) cne(d s) cor(d s) cueq(d s) cule(d s) cult(d s) cun(d s) cune(d s) saf(d s) seq(d
    s) sle(d s) slt(d s) sne(d s) sor(d s) sueq(d s) sule(d s) sult(d s) sun(d s) sune(d s))
    vfcvt(h.s s.d) vfcvth(d.s s.h) vfcvtl(d.s s.h) vfdiv(d s) vffint(d(l lu) s(l w wu)) vffinth.d.w
    vffintl.d.w vflogb(d s) vfmadd(d s) vfmax(d s) vfmaxa(d s) vfmin(d s) vfmina(d s) vfmsub(d s)
    vfmul(d s) vfnmadd(d s) vfnmsub(d s) vfrecip(d s) vfrecipe(d s) vfrint(d s) vfrintrm(d s)
    vfrintrne(d s) vfrintrp(d s) vfrintrz(d s) vfrsqrt(d s) vfrsqrte(d s) vfrstp(b h) vfrstpi(b h)
    vfsqrt(d s) vfsub(d s) vftint(l.d lu.d w(d s) wu.s) vftinth.l.s vftintl.l.s vftintrm(l.d w(d
    s)) vftintrmh.l.s vftintrml.l.s vftintrne(l.d w(d s)) vftintrneh.l.s vftintrnel.l.s
    vftintrp(l.d w(d s)) vftintrph.l.s vftintrpl.l.s vftintrz(l.d lu.d w(d s) wu.s) vftintrzh.l.s
    vftintrzl.l.s vhaddw(d.w du.wu h.b hu.bu q.d qu.du w.h wu.hu) vhsubw(d.w du.wu h.b hu.bu q.d
    qu.du w.h wu.hu) vilvh(b d h w) vilvl(b d h w) vinsgr2vr(b d h w) vld vldi vldrepl(b d h w)
    vldx vmadd(b d h w) vmaddwev(d(w wu!(w)) h(b bu!(b)) q(d du!(d)) w(h hu!(h))) vmaddwod(d(w
    wu!(w)) h(b bu!(b)) q(d du!(d)) w(h hu!(h))) vmax(b bu d du h hu w wu) vmaxi(b bu d du h hu w
    wu) vmin(b bu d du h hu w wu) vmini(b bu d du h hu w wu) vmod(b bu d du h hu w wu) vmskgez.b
    vmskltz(b d h w) vmsknz.b vmsub(b d h w) vmuh(b bu d du h hu w wu) vmul(b d h w) vmulwev(d(w
    wu!(w)) h(b bu!(b)) q(d du!(d)) w(h hu!(h))) vmulwod(d(w wu!(w)) h(b bu!(b)) q(d du!(d)) w(h
    hu!(h))) vneg(b d h w) vnor.v vnori.b vor.v vori.b vorn.v vpackev(b d h w) vpackod(b d h w)
    vpcnt(b d h w) vpermi.w vpickev(b d h w) vpickod(b d h w) vpickve2gr(b bu d du h hu w wu)
    vreplgr2vr(b d h w) vrepli(b d h w) vreplve(b d h w) vreplvei(b d h w) vrotr(b d h w) vrotri(b
    d h w) vsadd(b bu d du h hu w wu) vsat(b bu d du h hu w wu) vseq(b d h w) vseqi(b d h w)
    vshuf(b d h w) vshuf4i(b d h w) vsigncov(b d h w) vsle(b bu d du h hu w wu) vslei(b bu d du h
    hu w wu) vsll(b d h w) vslli(b d h w) vsllwil(d.w du.wu h.b hu.bu w.h wu.hu) vslt(b bu d du h
    hu w wu) vslti(b bu d du h hu w wu) vsra(b d h w) vsrai(b d h w) vsran(b.h h.w w.d) vsrani(b.h
    d.q h.w w.d) vsrar(b d h w) vsrari(b d h w) vsrarn(b.h h.w w.d) vsrarni(b.h d.q h.w w.d) vsrl(b
    d h w) vsrli(b d h w) vsrln(b.h h.w w.d) vsrlni(b.h d.q h.w w.d) vsrlr(b d h w) vsrlri(b d h w)
    vsrlrn(b.h h.w w.d) vsrlrni(b.h d.q h.w w.d) vssran(b.h bu.h h.w hu.w w.d wu.d) vssrani(b.h
    bu.h d.q du.q h.w hu.w w.d wu.d) vssrarn(b.h bu.h h.w hu.w w.d wu.d) vssrarni(b.h bu.h d.q du.q
    h.w hu.w w.d wu.d) vssrln(b.h bu.h h.w hu.w w.d wu.d) vssrlni(b.h bu.h d.q du.q h.w hu.w w.d
    wu.d) vssrlrn(b.h bu.h h.w hu.w w.d wu.d) vssrlrni(b.h bu.h d.q du.q h.w hu.w w.d wu.d) vssub(b
    bu d du h hu w wu) vst vstelm(b d h w) vstx vsub(b d h q w) vsubi(bu du hu wu) vsubwev(d(w wu)
    h(b bu) q(d du) w(h hu)) vsubwod(d(w wu) h(b bu) q(d du) w(h hu)) vxor.v vxori.b)
    masked(atomicrmw(add(i32* i64*) max(i32* i64*) min(i32* i64*) nand(i32* i64*) sub(i32* i64*)
    umax(i32* i64*) umin(i32* i64*) xchg(i32* i64*)) cmpxchg(i32* i64*)) movfcsr2gr movgr2fcsr
    syscall)"

end Reckoner.Llvm.Intrinsic.Table
