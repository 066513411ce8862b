/-! Names that belong to no kind of processor, in the form that `Listing` reads. -/
namespace Reckoner.Llvm.Intrinsic.Table

def general : String :=
  "abs* acos*=1 addressofreturnaddress* adjust.trampoline alloc.token.id* allow(runtime.check
    sanitize(address hwaddress memory thread) ubsan.check) annotation* arithmetic.fence*=1
    asan.check.memaccess asin*=1 assume atan*=1 atan2*=2 bitreverse* bswap* call.preallocated(arg
    setup teardown) callbr.landingpad* canonicalize*=1 ceil*=1 clear_cache clmul*
    codeview.annotation convert(from.fp16* to.fp16*) copysign*=2 coro(align* alloc alloca(alloc*
    free get) async(context(alloc dealloc) resume size.replace) await.suspend(bool handle void)
    begin!(custom.abi) destroy done end!(async results) frame free id!(async retcon!(once))
    is_in_ramp noop prepare(async retcon) promise resume save size* subfn.addr suspend!(async*
    retcon*)) cos*=1 cosh*=1 ctlz* ctpop* cttz* dbg(assign declare label value) debugtrap donothing
    eh(dwarf.cfa exceptioncode exceptionpointer* recoverfp return(i32 i64) sjlj(callsite
    functioncontext longjmp lsda setjmp setup.dispatch) typeid.for* unwind.init) exp*=1 exp10*=1
    exp2*=1 expect*(with.probability*) experimental(constrained(acos* asin* atan* atan2* ceil* cos*
    cosh* exp* exp2* fadd* fcmp* fcmps* fdiv* floor* fma* fmul* fmuladd* fpext* fptosi* fptoui*
    fptrunc* frem* fsub* ldexp* llrint* llround* log* log10* log2* lrint* lround* maximum* maxnum*
    minimum* minnum* nearbyint* pow* powi* rint* round* roundeven* sin* sinh* sitofp* sqrt* tan*
    tanh* trunc* uitofp*) convergence(anchor entry loop) cttz.elts* deoptimize*
    gc(get.pointer(base* offset*) relocate* result* statepoint*) get.vector.length* guard
    memset.pattern* noalias.scope.decl patchpoint*(void) stackmap vector(compress*
    extract.last.active* histogram(add* uadd.sat* umax* umin*) match*) vp(reverse* splice*
    strided(load* store*)) widenable.condition) fabs*=1 fake.use floor*=1 fma*=3 fmuladd*=3
    fptosi.sat* fptoui.sat* fptrunc.round* frameaddress* frexp* fshl* fshr* gcread gcroot gcwrite
    get(active.lane.mask* dynamic.area.offset* fpenv* fpmode* rounding)
    hwasan.check.memaccess!(fixedshadow shortgranules!(fixedshadow)) icall.branch.funnel
    init.trampoline instrprof(callsite cover increment!(step) mcdc(parameters tvbitmap.update)
    timestamp value.profile) invariant(end* start*) is(constant* fpclass*) launder.invariant.group*
    ldexp* lifetime(end* start*) llrint* llround* load.relative* localaddress localescape
    localrecover log*=1 log10*=1 log2*=1 loop(decrement*(reg*) dependence(raw.mask* war.mask*))
    lrint* lround* masked(compressstore* expandload* gather* load* scatter* store*)
    matrix(column.major(load* store*) multiply* transpose*) maximum*=2 maximumnum*=2 maxnum*=2
    memcpy*(element.unordered.atomic* inline*) memmove*(element.unordered.atomic*)
    memset*(element.unordered.atomic* inline*) minimum*=2 minimumnum*=2 minnum*=2 modf*
    nearbyint*=1 objc(arc.annotation(bottomup(bbend bbstart) topdown(bbend bbstart)) autorelease
    autoreleasePoolPop autoreleasePoolPush autoreleaseReturnValue claimAutoreleasedReturnValue
    clang.arc(noop.use use) copyWeak destroyWeak initWeak loadWeak loadWeakRetained moveWeak
    release retain!(autorelease) retainAutorelease retainAutoreleaseReturnValue
    retainAutoreleasedReturnValue retainBlock retainedObject storeStrong storeWeak sync(enter exit)
    unretainedObject unretainedPointer unsafeClaimAutoreleasedReturnValue) objectsize* pcmarker
    pow*=2 powi* prefetch* preserve(array.access.index* static.offset struct.access.index*
    union.access.index*) protected.field.ptr* pseudoprobe ptr.annotation* ptrauth(auth blend resign
    sign!(generic) strip) ptrmask* public.type.test read_register* read_volatile_register*
    readcyclecounter readsteadycounter reloc.none reset(fpenv fpmode) returnaddress rint*=1
    round*=1 roundeven*=1 sadd(sat* with.overflow*) scmp* sdiv.fix*(sat*) seh(scope(begin end)
    try(begin end)) set(fpenv* fpmode* loop.iterations* rounding) sideeffect sin*=1 sincos*
    sincospi* sinh*=1 smax* smin* smul(fix*(sat*) with.overflow*) sponentry* sqrt*=1 ssa.copy*=1
    sshl.sat* ssub(sat* with.overflow*) stackaddress* stackguard stackprotector stackrestore*
    stacksave* start.loop.iterations* stepvector* strip.invariant.group* swift.async.context.addr
    tan*=1 tanh*=1 test(set.loop.iterations* start.loop.iterations*) thread.pointer*
    threadlocal.address* trap trunc*=1 type(checked.load!(relative) test) uadd(sat* with.overflow*)
    ubsantrap ucmp* udiv.fix*(sat*) umax* umin* umul(fix*(sat*) with.overflow*) ushl.sat* usub(sat*
    with.overflow*) va_copy* va_end* va_start* var.annotation* vector(deinterleave2* deinterleave3*
    deinterleave4* deinterleave5* deinterleave6* deinterleave7* deinterleave8* extract* insert*
    interleave2* interleave3* interleave4* interleave5* interleave6* interleave7* interleave8*
    partial.reduce(add* fadd**=2) reduce(add* and* fadd* fmax* fmaximum* fmin* fminimum* fmul* mul*
    or* smax* smin* umax* umin* xor*) reverse* splice(left* right*)) vp(abs* add* and* ashr*
    bitreverse* bswap* ceil* copysign* ctlz* ctpop* cttz*(elts*) fabs* fadd* fcmp* fdiv* floor*
    fma* fmul* fmuladd* fneg* fpext* fptosi* fptoui* fptrunc* frem* fshl* fshr* fsub* gather* icmp*
    inttoptr* is.fpclass* llrint* load*(ff*) lrint* lshr* maximum* maxnum* merge* minimum* minnum*
    mul* nearbyint* or* ptrtoint* reduce(add* and* fadd* fmax* fmaximum* fmin* fminimum* fmul* mul*
    or* smax* smin* umax* umin* xor*) rint* round* roundeven* roundtozero* sadd.sat* scatter* sdiv*
    select* sext* shl* sitofp* smax* smin* sqrt* srem* ssub.sat* store* sub* trunc* uadd.sat* udiv*
    uitofp* umax* umin* urem* usub.sat* xor* zext*) vscale* write_register* xray(customevent
    typedevent)"

end Reckoner.Llvm.Intrinsic.Table
