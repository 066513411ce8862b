/-! Names that start with `mips`, in the form that `Listing` reads. -/
namespace Reckoner.Llvm.Intrinsic.Table

def mips : String :=
  "mips(absq.s(ph qb w) add.a(b d h w) addq(ph s(ph w)) addqh(ph r(ph w) w) adds(a(b d h w) s(b d
    h w) u(b d h w)) addsc addu(ph qb s(ph qb)) adduh(qb r.qb) addv(b d h w) addvi(b d h w) addwc
    and.v andi.b append asub(s(b d h w) u(b d h w)) ave(s(b d h w) u(b d h w)) aver(s(b d h w) u(b
    d h w)) balign bclr(b d h w) bclri(b d h w) binsl(b d h w) binsli(b d h w) binsr(b d h w)
    binsri(b d h w) bitrev bmnz.v bmnzi.b bmz.v bmzi.b bneg(b d h w) bnegi(b d h w) bnz(b d h v w)
    bposge32 bsel.v bseli.b bset(b d h w) bseti(b d h w) bz(b d h v w) ceq(b d h w) ceqi(b d h w)
    cfcmsa cle(s(b d h w) u(b d h w)) clei(s(b d h w) u(b d h w)) clt(s(b d h w) u(b d h w))
    clti(s(b d h w) u(b d h w)) cmp(eq.ph le.ph lt.ph) cmpgdu(eq.qb le.qb lt.qb) cmpgu(eq.qb le.qb
    lt.qb) cmpu(eq.qb le.qb lt.qb) copy(s(b d h w) u(b d h w)) ctcmsa div(s(b d h w) u(b d h w))
    dlsa dotp(s(d h w) u(d h w)) dpa.w.ph dpadd(s(d h w) u(d h w)) dpaq(s.w.ph sa.l.w) dpaqx(s.w.ph
    sa.w.ph) dpau.h(qbl qbr) dpax.w.ph dps.w.ph dpsq(s.w.ph sa.l.w) dpsqx(s.w.ph sa.w.ph)
    dpsu.h(qbl qbr) dpsub(s(d h w) u(d h w)) dpsx.w.ph extp extpdp extr(r.w rs.w s.h w) fadd(d w)
    fcaf(d w) fceq(d w) fclass(d w) fcle(d w) fclt(d w) fcne(d w) fcor(d w) fcueq(d w) fcule(d w)
    fcult(d w) fcun(d w) fcune(d w) fdiv(d w) fexdo(h w) fexp2(d w) fexupl(d w) fexupr(d w)
    ffint(s(d w) u(d w)) ffql(d w) ffqr(d w) fill(b d h w) flog2(d w) fmadd(d w) fmax(a(d w) d w)
    fmin(a(d w) d w) fmsub(d w) fmul(d w) frcp(d w) frint(d w) frsqrt(d w) fsaf(d w) fseq(d w)
    fsle(d w) fslt(d w) fsne(d w) fsor(d w) fsqrt(d w) fsub(d w) fsueq(d w) fsule(d w) fsult(d w)
    fsun(d w) fsune(d w) ftint(s(d w) u(d w)) ftq(h w) ftrunc(s(d w) u(d w)) hadd(s(d h w) u(d h
    w)) hsub(s(d h w) u(d h w)) ilvev(b d h w) ilvl(b d h w) ilvod(b d h w) ilvr(b d h w) insert(b
    d h w) insv insve(b d h w) lbux ld(b d h w) ldi(b d h w) ldr(d w) lhx lsa lwx madd!(q(h w))
    maddr.q(h w) maddu maddv(b d h w) maq(s.w(phl phr) sa.w(phl phr)) max(a(b d h w) s(b d h w) u(b
    d h w)) maxi(s(b d h w) u(b d h w)) min(a(b d h w) s(b d h w) u(b d h w)) mini(s(b d h w) u(b d
    h w)) mod(s(b d h w) u(b d h w)) modsub move.v msub!(q(h w)) msubr.q(h w) msubu msubv(b d h w)
    mthlip mul(ph q(h w) s.ph) muleq.s.w(phl phr) muleu.s.ph(qbl qbr) mulq(rs(ph w) s(ph w))
    mulr.q(h w) mulsa.w.ph mulsaq.s.w.ph mult multu mulv(b d h w) nloc(b d h w) nlzc(b d h w) nor.v
    nori.b or.v ori.b packrl.ph pckev(b d h w) pckod(b d h w) pcnt(b d h w) pick(ph qb)
    preceq.w(phl phr) precequ.ph(qbl qbla qbr qbra) preceu.ph(qbl qbla qbr qbra) precr(qb.ph
    sra(ph.w r.ph.w)) precrq(ph.w qb.ph rs.ph.w) precrqu.s.qb.ph prepend raddu.w.qb rddsp repl(ph
    qb) sat(s(b d h w) u(b d h w)) shf(b h w) shilo shll(ph qb s(ph w)) shra(ph qb r(ph qb w))
    shrl(ph qb) sld(b d h w) sldi(b d h w) sll(b d h w) slli(b d h w) splat(b d h w) splati(b d h
    w) sra(b d h w) srai(b d h w) srar(b d h w) srari(b d h w) srl(b d h w) srli(b d h w) srlr(b d
    h w) srlri(b d h w) st(b d h w) str(d w) subq(ph s(ph w)) subqh(ph r(ph w) w) subs(s(b d h w)
    u(b d h w)) subsus.u(b d h w) subsuu.s(b d h w) subu(ph qb s(ph qb)) subuh(qb r.qb) subv(b d h
    w) subvi(b d h w) vshf(b d h w) wrdsp xor.v xori.b)"

end Reckoner.Llvm.Intrinsic.Table
