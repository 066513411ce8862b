/-! Names that belong to further kinds of processors, in the form that `Listing` reads. -/
namespace Reckoner.Llvm.Intrinsic.Table

def others : String :=
  "s390(bdepg bextg efpc etnd lcbb ntstg ppa.txassist sfpc tabort tbegin!(nofloat) tbeginc tdc*
    tend vaccb vacccq vaccf vaccg vacch vaccq vacq vaq vavgb vavgf vavgg vavgh vavglb vavglf vavglg
    vavglh vavglq vavgq vbperm vceqbs vceqfs vceqgs vceqhs vceqqs vcfn vchbs vchfs vchgs vchhs
    vchlbs vchlfs vchlgs vchlhs vchlqs vchqs vcksm vclfnhs vclfnls vcnf vcrnfs verimb verimf verimg
    verimh veval vfaeb vfaebs vfaef vfaefs vfaeh vfaehs vfaezb vfaezbs vfaezf vfaezfs vfaezh
    vfaezhs vfcedbs vfcesbs vfchdbs vfchedbs vfchesbs vfchsbs vfeeb vfeebs vfeef vfeefs vfeeh
    vfeehs vfeezb vfeezbs vfeezf vfeezfs vfeezh vfeezhs vfeneb vfenebs vfenef vfenefs vfeneh
    vfenehs vfenezb vfenezbs vfenezf vfenezfs vfenezh vfenezhs vfidb vfisb vfmaxdb vfmaxsb vfmindb
    vfminsb vftcidb vftcisb vgemb vgemf vgemg vgemh vgemq vgfmab vgfmaf vgfmag vgfmah vgfmb vgfmf
    vgfmg vgfmh vistrb vistrbs vistrf vistrfs vistrh vistrhs vlbb vll vlrl vmaeb vmaef vmaeg vmaeh
    vmahb vmahf vmahg vmahh vmahq vmaleb vmalef vmaleg vmaleh vmalhb vmalhf vmalhg vmalhh vmalhq
    vmalob vmalof vmalog vmaloh vmaob vmaof vmaog vmaoh vmeb vmef vmeg vmeh vmhb vmhf vmhg vmhh
    vmhq vmleb vmlef vmleg vmleh vmlhb vmlhf vmlhg vmlhh vmlhq vmlob vmlof vmlog vmloh vmob vmof
    vmog vmoh vmslg vpdi vperm vpklsf vpklsfs vpklsg vpklsgs vpklsh vpklshs vpksf vpksfs vpksg
    vpksgs vpksh vpkshs vsbcbiq vsbiq vscbib vscbif vscbig vscbih vscbiq vsl vslb vsld vsldb vsq
    vsra vsrab vsrd vsrl vsrlb vstl vstrcb vstrcbs vstrcf vstrcfs vstrch vstrchs vstrczb vstrczbs
    vstrczf vstrczfs vstrczh vstrczhs vstrl vstrsb vstrsf vstrsh vstrszb vstrszf vstrszh vsumb
    vsumgf vsumgh vsumh vsumqf vsumqg vtm vuphb vuphf vuphg vuphh vuplb vuplf vuplg vuplhb vuplhf
    vuplhg vuplhh vuplhw vupllb vupllf vupllg vupllh) spv(all* alloca*(array*) any*
    assign(aliasing.decoration* decoration* fpmaxerror.decoration* name* ptr.type* type*) assume
    bitcast**=1 cmpxchg* const.composite* cross*=2 ddx*=1(coarse*=1 fine*=1) ddy*=1(coarse*=1
    fine*=1) degrees*=1 discard distance* dot4add(i8packed u8packed) expect* extractelt* extractv*
    faceforward*=3 fdot* firstbitlow* firstbitshigh* firstbituhigh* flattened.thread.id.in.group
    frac*=1 fwidth*=1 generic.cast.to.ptr.explicit* gep* global(offset* size*) group(id*
    memory.barrier.with.group.sync) init.global* inline.asm insertelt* insertv* isinf* isnan*
    length* lerp*=3 lifetime(end* start*) load* loop.merge nclamp*=3 normalize*=1 num(subgroups
    workgroups*) ptrcast* pushconstant.getpointer* radians*=1 reflect*=2 refract**=3
    resource(counterhandlefrombinding* counterhandlefromimplicitbinding* getdimensions.x*
    getpointer* handlefrombinding* handlefromimplicitbinding* load.typedbuffer* nonuniformindex
    store.typedbuffer* updatecounter*) rsqrt*=1 saturate*=1 sclamp* sdot* selection.merge* sign*
    smoothstep*=3 step*=2 store* subgroup(id local.invocation.id max.size size) switch*
    thread.id*(in.group*) track.constant* uclamp* udot* undef unpackhalf2x16* unreachable
    unref.global* value.md wave(active.countbits all any ballot get.lane.count is.first.lane
    readlane* reduce(max*=1 min*=1 sum*=1 umax*=1 umin*=1)) workgroup.size*) dx(all* any* asdouble*
    cross*=2 ddx(coarse*=1 fine*=1) ddy(coarse*=1 fine*=1) degrees*=1 discard dot2*=4 dot2add dot3*
    dot4* dot4add(i8packed u8packed) fdot* firstbitlow* firstbitshigh* firstbituhigh*
    flattened.thread.id.in.group frac*=1 group(id memory.barrier.with.group.sync) imad* isinf*
    isnan* legacyf16tof32* lerp*=3 load.input* nclamp*=3 normalize*=1 radians*=1
    resource(casthandle**=1 getdimensions.x* getpointer* handlefrombinding*
    handlefromimplicitbinding* load(cbufferrow(2* 4* 8*) rawbuffer* typedbuffer*) nonuniformindex
    store(rawbuffer* typedbuffer*) updatecounter*) rsqrt*=1 saturate*=1 sclamp* sdot* sign*
    splitdouble* step*=2 store.output* thread.id!(in.group) uclamp* udot* umad*
    wave(active.countbits all any ballot get.lane.count getlaneindex is.first.lane readlane*
    reduce(max*=1 min*=1 sum*=1 umax* umin* usum*))) wasm(alltrue* anytrue* avgr.unsigned* bitmask*
    bitselect* catch dot extadd.pairwise(signed* unsigned*) extract.lane.f16x8 get(ehselector
    exception) landingpad.index loadf16.f32 lsda memory(atomic(notify wait32 wait64) grow* size*)
    narrow(signed* unsigned*) pmax* pmin* q15mulr.sat.signed ref(is_null(exn extern func) null(exn
    extern func) test.func) relaxed(dot(bf16x8.add.f32 i8x16.i7x16(add.signed signed)) laneselect*
    madd* max* min* nmadd* q15mulr.signed swizzle trunc(signed!(zero) unsigned!(zero)))
    replace.lane.f16x8 rethrow shuffle splat.f16x8 storef16.f32 swizzle table(copy fill(exnref
    externref funcref) get(exnref externref funcref) grow(exnref externref funcref) set(exnref
    externref funcref) size) throw tls(align* base size*) trunc(saturate(signed* unsigned*) signed*
    unsigned*)) xcore(bitrev checkevent chkct* clre clrpt* clrsr crc32 crc8 edu* eeu* endin* freer*
    geted getet getid getps getr* getst* getts* in* inct* initcp* initdp* initlr* initpc* initsp*
    inshr* int* mjoin* msync* out* outct* outshr* outt* peek* setc* setclk* setd* setev* setps
    setpsc* setpt* setrdy* setsr settw* setv* sext ssync syncr* testct* testwct* waitevent zext)
    r600(cube ddx ddy dot4 group.barrier implicitarg.ptr kill rat.store.typed read(global.size(x y
    z) local.size(x y z) ngroups(x y z) tgid(x y z) tidig(x y z)) recipsqrt(clamped*=1 ieee*=1)
    store(stream.output swizzle) tex texc txb txbc txf txl txlc txq) bpf(btf.type.id compare*
    getelementptr.and(load* store*) load(byte half word) passthrough* preserve(enum.value
    field.info* type.info) pseudo)"

end Reckoner.Llvm.Intrinsic.Table
