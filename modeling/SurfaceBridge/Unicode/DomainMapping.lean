import SurfaceBridge.Unicode.MappingTable

set_option autoImplicit false

/-! # Characters in domain names

Each character is valid in domain names, stands for others, is ignored, or is not allowed at
all. What is in none of the tables is not allowed.
-/

namespace SurfaceBridge

namespace Unicode

/-- The characters that stand for others, with those they stand for. -/
def domainMapping : MappingTable := MappingTable.ofLines
  ["1t-p=2p 1x=w 7=w.lk 1=2p 4=w.lg 2-1=1e 0=w.ld 0=qk 2=w.mf 0=1d 0=33 1=1d.6dg.1g",
   "0=1d.6dg.1e 0=1f.6dg.1g 1-m=68 1-6=6w x=75 1=77 1=79 1=7b 1=7d 1=7f 1=7h 1=7j 1=7l 1=7n",
   "1=7p 1=7r 1=7t 1=7v 1=7x 1=7z 1=81 1=83 1=85 1=87 1=89 1=8b 1=8d 1=8f 1=2x.lj 1=2x.2y",
   "0=2x.2y 0=8l 1=8n 2=8q 1=8s 1=8u 1=30.53 0=30.53 0=8y 1=90 1=92 1=94 1=jg.32 0=97 1=99",
   "1=9b 1=9d 1=9f 1=9h 1=9j 1=9l 1=9n 1=9p 1=9r 1=9t 1=9v 1=9x 1=9z 1=a1 1=a3 1=a5 1=a7",
   "1=a9 1=ab 1=ad 1=af 1=73 0=ai 1=ak 1=am 1=37 1=gj 0=ar 1=at 1=gk 0=aw 1-1=gm 0=b0 2=d9",
   "0=gp 0=gr 0=b6 1=gw 0=gz 1=h5 0=h4 0=bd 3=hb 0=he 1=hh 0=bl 1=bn 1=bp 1=hs 0=bs 1=hv",
   "2=bx 1=i0 0=c0 1-1=i2 0=c4 1=c6 1=ia 0=c9 3=cd 7=2s.am 0=2s.am 0=2s.am 0=30.2y 0=30.2y",
   "0=30.2y 0=32.2y 0=32.2y 0=32.2y 0=cu 1=cw 1=cy 1=d0 1=d2 1=d4 1=d6 1=d8 2=db 1=dd 1=df",
   "1=dh 1=dj 1=dl 1=dn 1=dp 1=dr 2=2s.3e 0=2s.3e 0=2s.3e 0=dx 1=b9 0=cf 0=e1 1=e3 1=e5 1=e7",
   "1=e9 1=eb 1=ed 1=ef 1=eh 1=ej 1=el 1=en 1=ep 1=er 1=et 1=ev 1=ex 1=ez 1=f1 1=f3 1=bi",
   "1=f7 1=f9 1=fb 1=fd 1=ff 1=fh 1=fj 1=fl 1=fn 7=8rp 0=fw 1=be 0=8rq 2=g2 1=ao 0=i1 0=i4",
   "0=g7 1=g9 1=gb 1=gd 1=gf 2p=2w 0=h2 0=2y 0=36 0=hl 0=hn 0=ht 0=3b 0=3d v=w.li 0=w.lj",
   "0=w.lm 0=w.mg 0=w.lf 0=w.ln 2=gz 0=30 0=37 0=3c 0=id 2j-1=lc 1=lv 0=lk.ld 0=qh 16=oh",
   "1=oj 1=jd 1=on 3=w.qh 3=1n 0=s3 4=w.ld 0=w.lk.ld 0=q4 0=53 0-2=q5 1=r0 1-1=r1 1-g=q9",
   "1-8=qr z=rb 0=qa 0=qg 0=qt 0=r1 0=qz 0=qu 0=qo 1=rd 1=rf 1=rh 1=rj 1=rl 1=rn 1=rp 1=rr",
   "1=rt 1=rv 1=rx 1=rz 1=qi 0=qp 0=qr 1=qg 0=qd 1=s8 1=qr 0=sb 2-2=or 0-f=uo 0-v=ts 1c=v5",
   "1=v7 1=v9 1=vb 1=vd 1=vf 1=vh 1=vj 1=vl 1=vn 1=vp 1=vr 1=vt 1=vv 1=vx 1=vz 1=w1 9=wb",
   "1=wd 1=wf 1=wh 1=wj 1=wl 1=wn 1=wp 1=wr 1=wt 1=wv 1=wx 1=wz 1=x1 1=x3 1=x5 1=x7 1=x9",
   "1=xb 1=xd 1=xf 1=xh 1=xj 1=xl 1=xn 1=xp 1=xr 1=y7 0=xu 1=xw 1=xy 1=y0 1=y2 1=y4 1=y6",
   "2=y9 1=yb 1=yd 1=yf 1=yh 1=yj 1=yl 1=yn 1=yp 1=yr 1=yt 1=yv 1=yx 1=yz 1=z1 1=z3 1=z5",
   "1=z7 1=z9 1=zb 1=zd 1=zf 1=zh 1=zj 1=zl 1=zn 1=zp 1=zr 1=zt 1=zv 1=zx 1=zz 1=101 1=103",
   "1=105 1=107 1=109 1=10b 1=10d 1=10f 1=10h 1=10j 1=10l 1=10n 1=10p 1=10r 1=10t 1=10v",
   "2-11=129 1c=12d.136 6l=17r.19w 0=18o.19w 0=1c7.19w 0=18q.19w kf=1sl.1to 0=1sm.1to",
   "0=1sn.1to 0=1ss.1to 0=1sx.1to 0=1sy.1to 0=1t7.1to 0=1tb.1to 3g=1wh.1x8 0=1wi.1x8",
   "1=1wv.1x8 2b=20i.20s 2=20o.20s y=1zq.20s 0=1zr.20s 0=1zw.20s 2=20b.20s 71=275.27w",
   "0=276.27w k5=2tp.2sy 3j=2x9.2wi 14=2wb.2vt 0=2wb.2w1 1a=2yz 1i=30i.33r 9=30s.33r",
   "4=30x.33r 4=312.33r 4=317.33r c=30g.33p 9=31t.31u 1=31t.31w 0=33m.328 0=33m.31t.328",
   "0=33n.328 0=33n.31t.328 7=31t.328 h=32q.33r 9=330.33r 4=335.33r 4=33a.33r 4=33f.33r",
   "c=32o.33p 6e-11=8w0 1=8x3 5=8x9 1a=3bw l7-5=3xs 1oi=tu 0=tw 0=u6 0-1=u9 0=ua 0=ui 0=v7",
   "0=wuj 0=5my 6-16=3bk 2-2=3ct 30=2p 0=6e 0=2q 1-1=2s 0=d9 0-7=2v 1=33 0=f7 0=34 0=36",
   "0-1=38 0=3b 0=2p 0-1=gg 0=5qa 0=2q 0-1=2s 0=gp 0-1=gr 0=2v 1=2z 0=31 0=97 0=33 0=gk",
   "0-1=5qu 0=34 0-1=38 0=5r1 0=hb 0=3a 0=5r9 0-2=qa 0-1=qu 0=2x 0=36 0-1=39 0-1=qa 0=qp",
   "0-1=qu d=u5 y=gi 0=2r 0=gl 0=6o 0=gs 0=2u 0=gv 0=gx 0=h1 0-2=h4 0=5tn 0=il 0=h9 0=5tx",
   "0=in 0=hd 0=hc 0-3=he 0=hk 0-1=hu 0=bv 0-1=i1 0=5r0 0-1=i3 0=3e 0-2=i8 0=qg 1s=5xd 1=5xf",
   "1=5xh 1=5xj 1=5xl 1=5xn 1=5xp 1=5xr 1=5xt 1=5xv 1=5xx 1=5xz 1=5y1 1=5y3 1=5y5 1=5y7",
   "1=5y9 1=5yb 1=5yd 1=5yf 1=5yh 1=5yj 1=5yl 1=5yn 1=5yp 1=5yr 1=5yt 1=5yv 1=5yx 1=5yz",
   "1=5z1 1=5z3 1=5z5 1=5z7 1=5z9 1=5zb 1=5zd 1=5zf 1=5zh 1=5zj 1=5zl 1=5zn 1=5zp 1=5zr",
   "1=5zt 1=5zv 1=5zx 1=5zz 1=601 1=603 1=605 1=607 1=609 1=60b 1=60d 1=60f 1=60h 1=60j",
   "1=60l 1=60n 1=60p 1=60r 1=60t 1=60v 1=60x 1=60z 1=611 1=613 1=615 1=617 1=619 1=61b",
   "1=61d 1=61f 1=61h 5=2p.ji 0=601 2=67 1=61t 1=61v 1=61x 1=61z 1=621 1=623 1=625 1=627",
   "1=629 1=62b 1=62d 1=62f 1=62h 1=62j 1=62l 1=62n 1=62p 1=62r 1=62t 1=62v 1=62x 1=62z",
   "1=631 1=633 1=635 1=637 1=639 1=63b 1=63d 1=63f 1=63h 1=63j 1=63l 1=63n 1=63p 1=63r",
   "1=63t 1=63v 1=63x 1=63z 1=641 1=643 1=645 1=647 1=649 1=64b 1=64d 1=64f 9-7=64g 8-5=64w",
   "a-7=65c 8-7=65s 8-5=668 b=66p 1=66r 1=66t 1=66v 8-7=674 1=q4 1=q5 1=q6 1=q7 1=r0 1=r1",
   "1=r2 2=64g.qh 0=64h.qh 0=64i.qh 0=64j.qh 0=64k.qh 0=64l.qh 0=64m.qh 0=64n.qh 0=64g.qh",
   "0=64h.qh 0=64i.qh 0=64j.qh 0=64k.qh 0=64l.qh 0=64m.qh 0=64n.qh 0=65c.qh 0=65d.qh",
   "0=65e.qh 0=65f.qh 0=65g.qh 0=65h.qh 0=65i.qh 0=65j.qh 0=65c.qh 0=65d.qh 0=65e.qh",
   "0=65f.qh 0=65g.qh 0=65h.qh 0=65i.qh 0=65j.qh 0=674.qh 0=675.qh 0=676.qh 0=677.qh",
   "0=678.qh 0=679.qh 0=67a.qh 0=67b.qh 0=674.qh 0=675.qh 0=676.qh 0=677.qh 0=678.qh",
   "0=679.qh 0=67a.qh 0=67b.qh 2=67k.qh 0=q9.qh 0=q4.qh 2=69i.qh 0-1=69c 0=67k 0=q4 0=q9.qh",
   "0=w.lv 0=qh 0=w.lv 0=w.n6 0=w.lk.n6 0=67o.qh 0=qf.qh 0=q6.qh 2=69y.qh 0=67m 0=q5 0=67o",
   "0=q6 0=qf.qh 0=w.lv.lc 0=w.lv.ld 0=w.lv.n6 3=pc 4-1=6a8 0=67q 0=q7 1=w.lw.lc 0=w.lw.ld",
   "0=w.lw.n6 3=q8 4-1=6ao 0=67u 0=r1 0=6at 0=w.lk.lc 0=w.lk.ld 0=2o 2=67w.qh 0=qx.qh",
   "0=r2.qh 2=6ba.qh 0=67s 0=r0 0=67w 0=r2 0=qx.qh 0=w.ld 0=w.lw 1=w 0=w 0=w 0=w 0=w 0=w 0=w",
   "0=w 0=w 0=w 0=w 6=6c0 5=w.mr n=w 3=6cy.6cy 0=6cy.6cy.6cy 1=6d1.6d1 0=6d1.6d1.6d1 4=x.x",
   "1=w.lh 8=1r.1r 0=1r.x 0=x.1r d=6cy.6cy.6cy.6cy 7=w g=1c 0=2x 2-5=1g 0=17 0=6qa 0=1p",
   "0-1=14 0=32 0-9=1c 0=17 0=6qa 0=1p 0-1=14 1=2p 0=2t 0=33 0=3c 0=gp 0=2w 0-3=2z 0=34",
   "0-1=37 b=36.37 2f=2p.1b.2r 0=2p.1b.37 0=2r 0=4w.2r 1=2r.1b.33 0=2r.1b.39 0=gr 1=4w.2u",
   "0-1=2v 0=2w 0=2w 0=2w 0=87 0=2x 0=2x 0=30 0=30 1=32 0=32.33 2-2=34 0=36 0=36 2=37.31",
   "0=38.2t.30 0=38.31 1=3e 1=qx 1=3e 1=2z 0=6d 0-1=2q 1=2t 0-1=2t 0=6ku 0=31 0=33 0-3=15c",
   "0=2x 1=2u.2p.3c 0=qo 0=qb 0=qb 0=qo 0=6q9 4=2s 0-1=2s 0-1=2x 6=1d.6dg.1j 0=1d.6dg.1l",
   "0=1d.6dg.1d.1c 0=1d.6dg.1f 0=1e.6dg.1f 0=1d.6dg.1h 0=1e.6dg.1h 0=1f.6dg.1h 0=1g.6dg.1h",
   "0=1d.6dg.1i 0=1h.6dg.1i 0=1d.6dg.1k 0=1f.6dg.1k 0=1h.6dg.1k 0=1j.6dg.1k 0=1d.6dg 0=2x",
   "0=2x.2x 0=2x.2x.2x 0=2x.3a 0=3a 0=3a.2x 0=3a.2x.2x 0=3a.2x.2x.2x 0=2x.3c 0=3c 0=3c.2x",
   "0=3c.2x.2x 0=30 0-1=2r 0=31 0=2x 0=2x.2x 0=2x.2x.2x 0=2x.3a 0=3a 0=3a.2x 0=3a.2x.2x",
   "0=3a.2x.2x.2x 0=2x.3c 0=3c 0=3c.2x 0=3c.2x.2x 0=30 0-1=2r 0=31 3=6mc 5=1c.6dg.1f",
   "4i=6qz.6qz 0=6qz.6qz.6qz 1=6r2.6r2 0=6r2.6r2.6r2 6w-1=9hk 8l-8=1d 0=1d.1c 0=1d.1d",
   "0=1d.1e 0=1d.1f 0=1d.1g 0=1d.1h 0=1d.1i 0=1d.1j 0=1d.1k 0=1d.1l 0=1e.1c 0=14.1d.15",
   "0=14.1e.15 0=14.1f.15 0=14.1g.15 0=14.1h.15 0=14.1i.15 0=14.1j.15 0=14.1k.15 0=14.1l.15",
   "0=14.1d.1c.15 0=14.1d.1d.15 0=14.1d.1e.15 0=14.1d.1f.15 0=14.1d.1g.15 0=14.1d.1h.15",
   "0=14.1d.1i.15 0=14.1d.1j.15 0=14.1d.1k.15 0=14.1d.1l.15 0=14.1e.1c.15 k=14.2p.15",
   "0=14.2q.15 0=14.2r.15 0=14.2s.15 0=14.2t.15 0=14.2u.15 0=14.2v.15 0=14.2w.15 0=14.2x.15",
   "0=14.2y.15 0=14.2z.15 0=14.30.15 0=14.31.15 0=14.32.15 0=14.33.15 0=14.34.15 0=14.35.15",
   "0=14.36.15 0=14.37.15 0=14.38.15 0=14.39.15 0=14.3a.15 0=14.3b.15 0=14.3c.15 0=14.3d.15",
   "0=14.3e.15 0-p=2p 0-p=2p 0=1c 10h=6qz.6qz.6qz.6qz 2v=1m.1m.1p 0=1p.1p 0=1p.1p.1p",
   "2t=8gt.mw 83-1b=8q8 1c=8rl 1=h7 0=5tp 0=hp 2=8rs 1=8ru 1=8rw 1=gh 0=hd 0=gg 0=gi 1=8s3",
   "2=8s6 6=2y 0=3a 0-1=fz 0=8sh 1=8sj 1=8sl 1=8sn 1=8sp 1=8sr 1=8st 1=8sv 1=8sx 1=8sz 1=8t1",
   "1=8t3 1=8t5 1=8t7 1=8t9 1=8tb 1=8td 1=8tf 1=8th 1=8tj 1=8tl 1=8tn 1=8tp 1=8tr 1=8tt",
   "1=8tv 1=8tx 1=8tz 1=8u1 1=8u3 1=8u5 1=8u7 1=8u9 1=8ub 1=8ud 1=8uf 1=8uh 1=8uj 1=8ul",
   "1=8un 1=8up 1=8ur 1=8ut 1=8uv 1=8ux 1=8uz 1=8v1 1=8v3 1=8v5 1=8v7 8=8vg 1=8vi 4=8vn",
   "3g=8yp 8f=lal 2b=vj3 c=feo 0=ffs 0=fg6 0=fgf 0=fh5 0=fid 0=fik 0=fj4 0=fju 0=g1r 0=g2t",
   "0=g2z 0=g3m 0=g46 0=g4r 0=g68 0=g6t 0=g74 0=gbf 0=ge1 0=get 0=gey 0=gfs 0=gg1 0=ggs",
   "0=gh5 0=ghu 0=gja 0=gjs 0=gkj 0=h5j 0=h7j 0=hkb 0=hky 0=hl6 0=hlh 0=hlz 0=ho3 0=i1c",
   "0=i2o 0=i60 0=i6n 0=i76 0=i7s 0=i9a 0=i9d 0=ijf 0=ijp 0=ik1 0=ike 0=inm 0=inu 0=inz",
   "0=ir8 0=iri 0=irv 0=is3 0=its 0=iu9 0=iur 0=iwz 0=jd4 0=jee 0=jez 0=jzj 0=jzo 0=k1z",
   "0=k2f 0=k2s 0=k3d 0=k4g 0=k4l 0=kc0 0=kco 0=kdk 0=l5s 0=l7m 0=l89 0=l9v 0=laj 0=las",
   "0=laz 0=lcf 0=lck 0=ldg 0=m7f 0=mju 0=mk6 0=mkb 0=mkf 0=mkn 0=ml5 0=ml7 0=mng 0=mtg",
   "0=mtl 0=n30 0=n3a 0=n4o 0=n4v 0=n54 0=n5c 0=n7v 0=n82 0=nee 0=nel 0=nfy 0=ngf 0=nhq",
   "0=nob 0=noi 0=noz 0=ny2 0=o1k 0=o1q 0=o6s 0=o97 0=oah 0=okz 0=ooo 0=p4m 0=p5d 0=p6y",
   "0=p8d 0=pa9 0=pak 0=paq 0=pbn 0=pdr 0=pe1 0=pnn 0=pnu 0=po3 0=poc 0=pos 0=pp7 0=ppb",
   "0=pri 0=prm 0=prs 0=qj1 0=qjv 0=qww 0=qx8 0=qxv 0=r5q 0=r63 0=r82 0=r9c 0=rp3 0=rpi",
   "0=rpx 0=rqw 0=rrx 0=rxg 0=rxs 0=rzn 0=s6j 0=s7e 0=sd7 0=sds 0=sdx 0=sk1 0=sp5 0=ssm",
   "0=sss 0=ssx 0=tiv 0=tj4 0=tng 0=trq 0=trt 0=tt4 0=tw1 0=twe 0=twi 0=twp 0=tzf 0=u0d",
   "0=u0j 0=u0x 0=u5k 0=u6z 0=u73 0=uc6 0=uc9 0=ucs 0=ujs 0=ul4 0=ulb 0=un9 0=unj 0=unm",
   "0=unw 0=uoq 0=uzp 0=vat 0=vb3 0=vc5 0=vcr 0=vcz 0=vd9 0=vdd 0=veh 0=vel 0=vf2 0=vf7",
   "0=vfk 0=vgb 0=vgq 0=vgy 0=vil 0=vj0 0=vj4 16=w 1=1a 1f=9hu 1=gg1 0-1=gg4 2o=w.9ll",
   "0=w.9lm 2=9l4.9l6 2n=9mb.9mw 1d-1=3cw 0=3hm 0=3cy 0-1=3ho 0-2=3cz 0-5=3hs 0=3dm 0-2=3d2",
   "0=3dt 0-9=3d5 0-k=3fl 1-1=3dg 0-1=3if 0=3ik 0=3im 0=3ir 0=3iv 0=3ix 0=3do 0=3j1 0=3j3",
   "0-1=3dp 0=3ds 0-1=3du 0=3dz 0=3e1 0-4=3e3 0=3ea 0=3ee 0=3eo 0=3ev 0=3f0 0-1=3jl 0-2=3fb",
   "0-1=3gk 0=3go 0-1=3gx 0=3h0 0=3ha 0=3hd 3=feo 0=fik 0=fex 0=h5n 0=fey 0=ffx 0=fez 0=n5e",
   "0=fh5 0=ffd 0=fep 0=hm1 0=h80 0=fju 2o=14.3cw.15 0=14.3cy.15 0=14.3cz.15 0=14.3d1.15",
   "0=14.3d2.15 0=14.3d3.15 0=14.3d5.15 0=14.3d7.15 0=14.3d8.15 0=14.3da.15 0=14.3db.15",
   "0=14.3dc.15 0=14.3dd.15 0=14.3de.15 0=14.xz4.15 0=14.yvs.15 0=14.zc4.15 0=14.108s.15",
   "0=14.10p4.15 0=14.115g.15 0=14.1224.15 0=14.12ys.15 0=14.13f4.15 0=14.14bs.15",
   "0=14.14s4.15 0=14.158g.15 0=14.15os.15 0=14.1654.15 0=14.13p8.15 0=14.1350.13ic.15",
   "0=14.1350.16f8.15 1=14.feo.15 0=14.fik.15 0=14.fex.15 0=14.h5n.15 0=14.fis.15",
   "0=14.g31.15 0=14.fer.15 0=14.g2z.15 0=14.fh9.15 0=14.gg1.15 0=14.kco.15 0=14.m7f.15",
   "0=14.ldg.15 0=14.kdk.15 0=14.ssx.15 0=14.h7j.15 0=14.k4l.15 0=14.kkq.15 0=14.kcp.15",
   "0=14.ny6.15 0=14.glp.15 0=14.mm1.15 0=14.rs1.15 0=14.nz1.15 0=14.gc4.15 0=14.fkz.15",
   "0=14.gos.15 0=14.i1y.15 0=14.nhf.15 0=14.flt.15 0=14.rt3.15 0=14.ggk.15 0=14.nzh.15",
   "0=14.fm9.15 0=14.pnu.15 0=14.po3.15 0=gun 0=inw 0=k1z 0=oen 8=34.38.2t 0=1e.1d 0=1e.1e",
   "0=1e.1f 0=1e.1g 0=1e.1h 0=1e.1i 0=1e.1j 0=1e.1k 0=1e.1l 0=1f.1c 0=1f.1d 0=1f.1e 0=1f.1f",
   "0=1f.1g 0=1f.1h 0=3cw 0-1=3cy 0-2=3d1 0=3d5 0-1=3d7 0-4=3da 0=xz4 0=yvs 0=zc4 0=108s",
   "0=10p4 0=115g 0=1224 0=12ys 0=13f4 0=14bs 0=14s4 0=158g 0=15os 0=1654 0=14c8.y5c",
   "0=13p8.13dk 0=138w 1=feo 0=fik 0=fex 0=h5n 0=fis 0=g31 0=fer 0=g2z 0=fh9 0=gg1 0=kco",
   "0=m7f 0=ldg 0=kdk 0=ssx 0=h7j 0=k4l 0=kkq 0=kcp 0=ny6 0=glp 0=mm1 0=rs1 0=nz1 0=gc4",
   "0=o2g 0=n5j 0=ho3 0=six 0=g16 0=ghc 0=lig 0=u11 0=fm9 0=g49 0=l7n 0=fey 0=ffx 0=fez",
   "0=ijq 0=gkz 0=gfv 0=i3b 0=i1y 0=nhf 0=flt 0=rt3 0=ggk 0=hlo 0=1f.1i 0=1f.1j 0=1f.1k",
   "0=1f.1l 0=1g.1c 0=1g.1d 0=1g.1e 0=1g.1f 0=1g.1g 0=1g.1h 0=1g.1i 0=1g.1j 0=1g.1k 0=1g.1l",
   "0=1h.1c 0=1d.kco 0=1e.kco 0=1f.kco 0=1g.kco 0=1h.kco 0=1i.kco 0=1j.kco 0=1k.kco 0=1l.kco",
   "0=1d.1c.kco 0=1d.1d.kco 0=1d.1e.kco 0=2w.2v 0=2t.36.2v 0=2t.3a 0=30.38.2s 0=9lu 0=9lw",
   "0=9ly 0=9m0 0-1=9m2 0=9m5 0=9m7 0=9m9 0=9mb 0=9md 0=9mf 0=9mh 0=9mj 0=9ml 0=9mn 0=9mp",
   "0=9ms 0=9mu 0=9mw 0-5=9my 0=9n6 0=9n9 0=9nc 0=9nf 0-4=9ni 0=9no 0=9nq 0-5=9ns 0-3=9nz",
   "0=fl0.gp8 0=9lu.9n5.9oc.9mw 0=9lu.9nv.9n9.9lt 0=9lu.9o3.9ne.9lu 0=9lu.9oc.9nv",
   "0=9lw.9mz.9o3.9m8 0=9lw.9o3.9mp 0=9ly.9m1.9o3 0=9m0.9mh.9m7.9oc.9mx 0=9m0.9oc.9m3.9oc",
   "0=9m2.9o3.9mh 0=9m2.9oc.9nk 0=9m3.9lw.9nu 0=9m3.9nt.9mr.9mw 0=9m3.9nx.9nu.9oc",
   "0=9m4.9nx.9o3 0=9m4.9o3.9ni 0=9m6.9m4 0=9m6.9mz.9oc 0=9m5.9np.9nu.9oc 0=9m6.9nv.9mo.9oc",
   "0=9m5.9nx 0=9m5.9nx.9m8.9nt.9nk 0=9m5.9nx.9nl.9oc.9mw.9nv 0=9m5.9nx.9nz.9mr.9mw",
   "0=9m8.9nt.9nk 0=9m8.9nt.9nk.9mw.9o3 0=9m7.9nv.9mk.9lw.9nx 0=9m7.9nx.9oc.9n1",
   "0=9m9.9oc.9mh 0=9mb.9nv.9my 0=9mb.9oc.9nh 0=9md.9lw.9m7.9nv 0=9md.9o3.9mp.9oc.9nk",
   "0=9mf.9nu.9o3.9m8 0=9mj.9o3.9mp 0=9mj.9o3.9mw 0=9mo.9oc.9mh 0=9mv.9mf 0=9mx.9nv",
   "0=9mw.9o3 0=9my.9n2 0=9n2.9mr.9mw 0=9n3.9lw.9ms 0=9n5.9oc.9mj.9o3.9mw 0=9n5.9oc.9ms",
   "0=9n4.9oc.9nw.9nv 0=9n8.9lu.9mh.9mw.9nv 0=9n8.9m7.9nv 0=9n8.9mb 0=9n7.9nv",
   "0=9n9.9lt.9nt.9mr.9mx 0=9n9.9lv.9oc.9mw 0=9na.9mr.9mf.9lz.9nv 0=9n9.9nt.9o3",
   "0=9nc.9m7.9mn.9oc.9nv 0=9ne.9ml 0=9ne.9mz.9n6 0=9nc.9nv.9ms 0=9ne.9o3.9mh 0=9ne.9oc.9mg",
   "0=9nd.9oc.9mn 0=9nh.9lw.9o3.9mw 0=9ng.9nv.9mw 0=9nf.9o3 0=9nh.9o3.9mx 0=9nf.9oc.9nv",
   "0=9nf.9oc.9o3 0=9ni.9lw.9m7.9nx 0=9ni.9lw.9nv 0=9ni.9mr.9n3 0=9ni.9nv.9m7",
   "0=9ni.9o3.9mf.9nr.9o3 0=9nj.9m7.9nx.9o3 0=9nj.9nu 0=9nj.9nu.9n4.9oc.9nv 0=9nl.9m4",
   "0=9nl.9m4.9mw.9o3 0=9nl.9oc.9mw.9nv 0=9no.9oc.9mx 0=9no.9oc.9nv 0=9nq.9lu.9o3",
   "0=9nu.9mr.9mw.9nv 0=9nu.9nt 0=9nv.9n8.9oc 0=9nv.9oc.9na.9nv 0=9nw.9nk",
   "0=9nw.9o3.9mw.9ma.9o3 0=9nz.9mr.9mw 0=1c.m9l 0=1d.m9l 0=1e.m9l 0=1f.m9l 0=1g.m9l",
   "0=1h.m9l 0=1i.m9l 0=1j.m9l 0=1k.m9l 0=1l.m9l 0=1d.1c.m9l 0=1d.1d.m9l 0=1d.1e.m9l",
   "0=1d.1f.m9l 0=1d.1g.m9l 0=1d.1h.m9l 0=1d.1i.m9l 0=1d.1j.m9l 0=1d.1k.m9l 0=1d.1l.m9l",
   "0=1e.1c.m9l 0=1e.1d.m9l 0=1e.1e.m9l 0=1e.1f.m9l 0=1e.1g.m9l 0=2w.34.2p 0=2s.2p 0=2p.39",
   "0=2q.2p.36 0=33.3a 0=34.2r 0=2s.31 0=2s.31.1e 0=2s.31.1f 0=2x.39 0=inn.jdc 0=k6l.gp8",
   "0=hlz.l7n 0=k5q.lh7 0=kkq.irz.fmi.ny6 0=34.2p 0=32.2p 0=qk.2p 0=31.2p 0=2z.2p 0=2z.2q",
   "0=31.2q 0=2v.2q 0=2r.2p.30 0=2z.2r.2p.30 0=34.2u 0=32.2u 0=qk.2u 0=qk.2v 0=31.2v 0=2z.2v",
   "0=2w.3e 0=2z.2w.3e 0=31.2w.3e 0=2v.2w.3e 0=38.2w.3e 0=qk.30 0=31.30 0=2s.30 0=2z.30",
   "0=2u.31 0=32.31 0=qk.31 0=31.31 0=2r.31 0=2z.31 0=31.31.1e 0=2r.31.1e 0=31.1e 0=2z.31.1e",
   "0=31.31.1f 0=2r.31.1f 0=31.1f 0=2z.31.1f 0=31.6qd.37 0=31.6qd.37.1e 0=34.2p 0=2z.34.2p",
   "0=31.34.2p 0=2v.34.2p 0=36.2p.2s 0=36.2p.2s.6qd.37 0=36.2p.2s.6qd.37.1e 0=34.37 0=32.37",
   "0=qk.37 0=31.37 0=34.3a 0=32.3a 0=qk.3a 0=31.3a 0=2z.3a 0=31.3a 0=34.3b 0=32.3b 0=qk.3b",
   "0=31.3b 0=2z.3b 0=31.3b 0=2z.qx 0=31.qx 1=2q.35 0=2r.2r 0=2r.2s 0=2r.6qd.2z.2v 1=2s.2q",
   "0=2v.3d 0=2w.2p 0=2w.34 0=2x.32 0=2z.2z 0=2z.31 0=2z.38 0=30.31 0=30.32 0=30.33.2v",
   "0=30.3c 0=31.2q 0=31.2x.30 0=31.33.30 0=34.2w 1=34.34.31 0=34.36 0=37.36 0=37.3a 0=3b.2q",
   "0=3a.6qd.31 0=2p.6qd.31 0=1d.k4l 0=1e.k4l 0=1f.k4l 0=1g.k4l 0=1h.k4l 0=1i.k4l 0=1j.k4l",
   "0=1k.k4l 0=1l.k4l 0=1d.1c.k4l 0=1d.1d.k4l 0=1d.1e.k4l 0=1d.1f.k4l 0=1d.1g.k4l",
   "0=1d.1h.k4l 0=1d.1i.k4l 0=1d.1j.k4l 0=1d.1k.k4l 0=1d.1l.k4l 0=1e.1c.k4l 0=1e.1d.k4l",
   "0=1e.1e.k4l 0=1e.1f.k4l 0=1e.1g.k4l 0=1e.1h.k4l 0=1e.1i.k4l 0=1e.1j.k4l 0=1e.1k.k4l",
   "0=1e.1l.k4l 0=1f.1c.k4l 0=1f.1d.k4l 0=2v.2p.30 mkg=wu9 1=wub 1=wud 1=wuf 1=wuh 1=wuj",
   "1=wul 1=wun 1=wup 1=wur 1=wut 1=wuv 1=wux 1=wuz 1=wv1 1=wv3 1=wv5 1=wv7 1=wv9 1=wvb",
   "1=wvd 1=wvf 1=wvh j=ww1 1=ww3 1=ww5 1=ww7 1=ww9 1=wwb 1=wwd 1=wwf 1=wwh 1=wwj 1=wwl",
   "1=wwn 1=wwp 1=wwr 1=ui 0=uk 3o=x0j 1=x0l 1=x0n 1=x0p 1=x0r 1=x0t 1=x0v 3=x0z 1=x11 1=x13",
   "1=x15 1=x17 1=x19 1=x1b 1=x1d 1=x1f 1=x1h 1=x1j 1=x1l 1=x1n 1=x1p 1=x1r 1=x1t 1=x1v",
   "1=x1x 1=x1z 1=x21 1=x23 1=x25 1=x27 1=x29 1=x2b 1=x2d 1=x2f 1=x2h 1=x2j 1=x2l 1=x2n",
   "1=x2n 8=x2y 1=x30 1=5tl 0=x33 1=x35 1=x37 1=x39 1=x3b 4=x3g 1=h1 2=x3l 1=x3n 3=x3r 1=x3t",
   "1=x3v 1=x3x 1=x3z 1=x41 1=x43 1=x45 1=x47 1=x49 1=h2 0=gs 0=gx 0=h8 0=h6 1=im 0=hz 0=il",
   "0=xub 0=x4l 1=x4n 1=x4p 1=x4r 1=x4t 1=x4v 1=x4x 1=x4z 1=x3o 0=hu 0=5u6 0=x54 1=x56 1=h0",
   "0=x59 1=x5b 1=x5d 1=x5f 1=x5h 1=x5j 1=x5l 1=x5n 1=bf k=37 0=2r 0=2u 0=35 0=x6e 2=87 0=9f",
   "o2=x0n 0=xtj 0=h7 0=xua 9=i5 6-27=3vk f9c=rpk 0=kc4 0=s7e 0=rt4 0=lw1 0=fg2 0=gkl 0=vj0",
   "0=vj0 0=hn5 0=ssx 0=gw7 0=hmw 0=jcm 0=ne1 0=p6t 0=qin 0=qt6 0=r20 0=sjz 0=kxu 0=ljv",
   "0=mah 0=mvy 0=q4d 0=sq2 0=uep 0=fia 0=ghh 0=l50 0=mjf 0=qi5 0=v8e 0=ifk 0=m3v 0=qfh",
   "0=r50 0=jih 0=pnc 0=qvz 0=iq2 0=kd3 0=lm2 0=mpo 0=slq 0=fpi 0=g53 0=gda 0=jwk 0=l3n",
   "0=mj4 0=nhj 0=pa9 0=qh2 0=qjg 0=s1b 0=tv6 0=upb 0=v7e 0=nt8 0=nzz 0=otc 0=q15 0=t1g",
   "0=vb3 0=rfa 0=hjz 0=iro 0=okg 0=pdq 0=mle 0=nuy 0=rsy 0=ttj 0=hjs 0=i8y 0=kyb 0=lp6",
   "0=lxr 0=oq7 0=oxj 0=tor 0=gcy 0=pe3 0=g64 0=g5o 0=o4c 0=ou6 0=q29 0=tpx 0=rk0 0=jin",
   "0=kxu 0=rge 0=fg9 0=i5j 0=iz6 0=mtj 0=n74 0=gev 0=nwb 0=fr3 0=iw9 0=ff1 0=lho 0=k1k",
   "0=opu 0=gjn 0=hge 0=ni9 0=q4p 0=re2 0=la2 0=sds 0=lfs 0=jjy 0=put 0=jog 0=n6t 0=fji",
   "0=g2x 0=g5l 0=kn5 0=oo7 0=prj 0=rf6 0=ssv 0=gdx 0=gn6 0=ho3 0=ir0 0=k3p 0=m4e 0=nxm",
   "0=tkd 0=ui2 0=vbr 0=vda 0=gbf 0=kau 0=l87 0=sbm 0=ino 0=j9s 0=jcw 0=jve 0=lyb 0=mdl",
   "0=n0p 0=o22 0=ovo 0=pdb 0=s9y 0=q9a 0=sgz 0=t3e 0=g7r 0=gbn 0=gql 0=ma0 0=r0i 0=re2",
   "0=iq1 0=iyd 0=jnf 0=l9q 0=oji 0=mt1 0=fl0 0=h6h 0=i5j 0=iii 0=izg 0=muq 0=mzt 0=p7e",
   "0=pc6 0=svo 0=tti 0=tvs 0=u1k 0=fpn 0=o1a 0=ss4 0=trs 0=j4x 0=fie 0=fyy 0=i5q 0=i7z",
   "0=k2h 0=kxu 0=mha 0=ncy 0=q9o 0=sjg 0=vil 0=k94 0=tny 0=gax 0=kfv 0=kj7 0=lkx 0=luk",
   "0=mx5 0=n6h 0=nsb 0=opc 0=u3i 0=g31 0=je6 0=tq0 0=fu3 0=ie1 0=lpm 0=sa2 0=ivf 0=j7o",
   "0=kk7 0=mtj 0=tqe 0=g89 0=glr 0=i91 0=k5v 0=kem 0=ko8 0=lid 0=mx2 0=naa 0=p6h 0=r0v",
   "0=r1d 0=sss 0=tsy 0=gfz 0=lve 0=gm5 0=mhc 0=n14 0=qgq 0=tr7 0=uvr 0=vbz 0=kgn 0=lor",
   "0=pns 0=o97 0=obk 0=olu 0=mo0 0=m8p 0=riw 0=fk0 0=px2 0=g8q 0=g7b 0=ip2 0=jir 0=onq",
   "0=i2t 0=ljy 0=kac 0=saj 0=qx8 0=tot 0=r63 0=iqb 0=g1s 0=gxs 2=hga 1=k8k 2=g66 0=mqy",
   "0=ngq 0=ny4 0=nz2 0=nz9 0=o0f 0=tw6 0=on2 0=p8d 1=qhe 1=rg8 2=shk 0=sn1 3=u7j 0=u7w",
   "0=u94 0=v5g 0=sm6 0=trr 0=fqm 0=fzb 0=g25 0=gcp 0=gdg 0=ggh 0=gwt 0=gzq 0=h2g 0=hfk",
   "0=hig 0=i90 0=i9a 0=j2s 0=j8o 0=j9q 0=jci 0=k0f 0=k4i 0=k9d 0=kn9 0=lmf 0=lqy 0=lya",
   "0=mem 0=mjv 0=mxu 0=ntd 0=ny6 0=nyh 0=nyg 0=nyo 0=nyu 0=nz1 0-1=o0d 0=o5c 0=o75 0=og0",
   "0=ovo 0=ow9 0=oxt 0=p6a 0=pad 0=pnx 0=prt 0=prt 0=q53 0=r2o 0=r6e 0=rgh 0=ri1 0=rtf",
   "0=ruw 0=sdy 0=shk 0=tsz 0=u0v 0=u2j 0=j1x 0=36cu 0=pp4 2=ffq 0=g51 0=g2w 0=fpc 0=g1x",
   "0=g3k 0=gcn 0=ge2 0=gwt 0=gut 0=gwp 0=gyq 0=hga 0=hir 0=hms 0=hn8 0=huq 0=i08 0=iqa",
   "0=iqh 0=iuh 0=iwd 0=j4o 0=j7y 0=j60 0=j9q 0=j8g 0=jci 0=jec 0=jpg 0=jrw 0=jte 0=k0m",
   "0=k8k 0=kd3 0=kd7 0=keu 0=l89 0=la2 0=lkx 0=lwb 0=lvv 0=lya 0=m5a 0=mem 0=nmv 0=mk5",
   "0=mnj 0=mqy 0=n01 0=n46 0=n5n 0=nbx 0=nbz 0=ngq 0=nh7 0=nhw 0=nka 0=nk0 0=nv0 0=o8h",
   "0=og0 0=ol7 0=orf 0=ovo 0=p4u 0=pad 0=pxu 0=q27 0=qrd 0=r41 0=r5y 0=r6e 0=ren 0=rg8",
   "0=rez 0=rgh 0=rge 0=rfx 0=ri1 0=rka 0=ruw 0=sag 0=sj6 0=srd 0=sxi 0=tq4 0=tsz 0=tw6",
   "0=tzv 0=u0v 0=u17 0=u2j 0=umq 0=vj0 0=313e 0=3138 0=33dh 0=brx 0=cns 0=cop 0=39e1 0=3bgw",
   "0=3i6r 0=vgj 0=vim 12=2u.2u 0=2u.2x 0=2u.30 0=2u.2u.2x 0=2u.2u.30 0=37.38 0=37.38",
   "c=12s.12u 0=12s.12d 0=12s.12j 0=132.12u 0=12s.12l 5=15l.14k 1=16a.14n 0=15u 0=15c",
   "0-1=15f 0-2=15n 0=160 0=162 0=17 0=161.14x 0=161.14y 0=161.14s.14x 0=161.14s.14y",
   "0=15c.14n 0=15c.14o 0=15c.14s 0=15d.14s 0=15e.14s 0=15f.14s 0=15g.14s 0=15h.14s",
   "0=15i.14s 1=15k.14s 0=15l.14s 0=15m.14s 0=15n.14s 0=15o.14s 1=15q.14s 1=15s.14s",
   "0=15t.14s 1=15v.14s 0=15w.14s 1=15y.14s 0=15z.14s 0=160.14s 0=161.14s 0=162.14s",
   "0=15h.14p 0=15d.14v 0=15n.14v 0=15w.14v 0=15c.15o 0=19t 0=19t 0=1a3 0=1a3 0=1a3 0=1a3",
   "0=1a6 0=1a6 0=1a6 0=1a6 0=1a8 0=1a8 0=1a8 0=1a8 0=1a2 0=1a2 0=1a2 0=1a2 0=1a7 0=1a7",
   "0=1a7 0=1a7 0=1a1 0=1a1 0=1a1 0=1a1 0=1b8 0=1b8 0=1b8 0=1b8 0=1ba 0=1ba 0=1ba 0=1ba",
   "0=1ac 0=1ac 0=1ac 0=1ac 0=1ab 0=1ab 0=1ab 0=1ab 0=1ae 0=1ae 0=1ae 0-1=1ae 0=1af 0=1af",
   "0=1af 0=1al 0=1al 0=1ak 0=1ak 0=1am 0=1am 0=1ag 0=1ag 0=1aw 0=1aw 0=1ap 0=1ap 0=1bd",
   "0=1bd 0=1bd 0=1bd 0=1bj 0=1bj 0=1bj 0=1bj 0=1bn 0=1bn 0=1bn 0=1bn 0=1bl 0=1bl 0=1bl",
   "0=1bl 0=1bu 0-1=1bu 0=1bv 0=1bv 0=1bv 0=1c0 0-1=1c0 0=1c1 0=1c1 0=1c1 0=1by 0=1by 0=1by",
   "0=1by 0=1ci 0-1=1ci 0=1cj x=1bh 0=1bh 0=1bh 0=1bh 0=1c7 0=1c7 0=1c6 0=1c6 0=1c8 0=1c8",
   "0=1c7.19w 0=1cb 0=1cb 0=1c5 0=1c5 0=1c9 0=1c9 0=1cg 0=1cg 0=1cg 0=1cg 0=18p 0=18p",
   "0=17q.17r 0=17q.17r 0=17q.1cl 0=17q.1cl 0=17q.18o 0=17q.18o 0=17q.1c7 0=17q.1c7",
   "0=17q.1c6 0=17q.1c6 0=17q.1c8 0=17q.1c8 0=17q.1cg 0=17q.1cg 0=17q.1cg 0=17q.18p",
   "0=17q.18p 0=17q.18p 0=1cc 0=1cc 0=1cc 0=1cc 0=17q.17w 0=17q.17x 0=17q.18l 0=17q.18p",
   "0=17q.18q 0=17s.17w 0=17s.17x 0=17s.17y 0=17s.18l 0=17s.18p 0=17s.18q 0=17u.17w",
   "0=17u.17x 0=17u.17y 0=17u.18l 0=17u.18p 0=17u.18q 0=17v.17w 0=17v.18l 0=17v.18p",
   "0=17v.18q 0=17w.17x 0=17w.18l 0=17x.17w 0=17x.18l 0=17y.17w 0=17y.17x 0=17y.18l",
   "0=183.17w 0=183.17x 0=183.17y 0=183.18l 0=185.17x 0=185.18l 0=186.17w 0=186.17x",
   "0=186.17y 0=186.18l 0=187.17x 0=187.18l 0=188.18l 0=189.17w 0=189.18l 0=18a.17w",
   "0=18a.18l 0=18h.17w 0=18h.17x 0=18h.17y 0=18h.18l 0=18h.18p 0=18h.18q 0=18i.17x",
   "0=18i.18l 0=18i.18p 0=18i.18q 0=18j.17r 0=18j.17w 0=18j.17x 0=18j.17y 0=18j.18k",
   "0=18j.18l 0=18j.18p 0=18j.18q 0=18k.17w 0=18k.17x 0=18k.17y 0=18k.18l 0=18k.18p",
   "0=18k.18q 0=18l.17w 0=18l.17x 0=18l.17y 0=18l.18l 0=18l.18p 0=18l.18q 0=18m.17w",
   "0=18m.17x 0=18m.17y 0=18m.18l 0=18m.18p 0=18m.18q 0=18n.17w 0=18n.18l 0=18n.18p",
   "0=18n.18q 0=18q.17w 0=18q.17x 0=18q.17y 0=18q.18l 0=18q.18p 0=18q.18q 0=180.19s",
   "0=181.19s 0=18p.19s 0=w.18s.18x 0=w.18t.18x 0=w.18u.18x 0=w.18v.18x 0=w.18w.18x",
   "0=w.18x.19s 0=17q.181 0=17q.182 0=17q.18l 0=17q.18m 0=17q.18p 0=17q.18q 0=17s.181",
   "0=17s.182 0=17s.18l 0=17s.18m 0=17s.18p 0=17s.18q 0=17u.181 0=17u.182 0=17u.18l",
   "0=17u.18m 0=17u.18p 0=17u.18q 0=17v.181 0=17v.182 0=17v.18l 0=17v.18m 0=17v.18p",
   "0=17v.18q 0=18h.18p 0=18h.18q 0=18i.18p 0=18i.18q 0=18j.17r 0=18j.18k 0=18j.18l",
   "0=18j.18p 0=18j.18q 0=18k.18l 0=18k.18p 0=18k.18q 0=18l.17r 0=18l.18l 0=18m.181",
   "0=18m.182 0=18m.18l 0=18m.18m 0=18m.18p 0=18m.18q 0=18p.19s 0=18q.181 0=18q.182",
   "0=18q.18l 0=18q.18m 0=18q.18p 0=18q.18q 0=17q.17w 0=17q.17x 0=17q.17y 0=17q.18l",
   "0=17q.18n 0=17s.17w 0=17s.17x 0=17s.17y 0=17s.18l 0=17s.18n 0=17u.17w 0=17u.17x",
   "0=17u.17y 0=17u.18l 0=17u.18n 0=17v.18l 0=17w.17x 0=17w.18l 0=17x.17w 0=17x.18l",
   "0=17y.17w 0=17y.18l 0=183.17w 0=183.17x 0=183.17y 0=183.18l 0=185.17x 0=185.17y",
   "0=185.18l 0=186.17w 0=186.17x 0=186.17y 0=186.18l 0=187.17x 0=188.18l 0=189.17w",
   "0=189.18l 0=18a.17w 0=18a.18l 0=18h.17w 0=18h.17x 0=18h.17y 0=18h.18l 0=18i.17x",
   "0=18i.18l 0=18j.17w 0=18j.17x 0=18j.17y 0=18j.18k 0=18j.18l 0=18k.17w 0=18k.17x",
   "0=18k.17y 0=18k.18l 0=18k.18n 0=18l.17w 0=18l.17x 0=18l.17y 0=18l.18l 0=18m.17w",
   "0=18m.17x 0=18m.17y 0=18m.18l 0=18m.18n 0=18n.17w 0=18n.18l 0=18n.19s 0=18q.17w",
   "0=18q.17x 0=18q.17y 0=18q.18l 0=18q.18n 0=17q.18l 0=17q.18n 0=17s.18l 0=17s.18n",
   "0=17u.18l 0=17u.18n 0=17v.18l 0=17v.18n 0=183.18l 0=183.18n 0=184.18l 0=184.18n",
   "0=18j.18k 0=18j.18l 0=18k.18l 0=18m.18l 0=18m.18n 0=18q.18l 0=18q.18n 0=18g.18u.18x",
   "0=18g.18v.18x 0=18g.18w.18x 0=187.18p 0=187.18q 0=189.18p 0=189.18q 0=18a.18p 0=18a.18q",
   "0=183.18p 0=183.18q 0=184.18p 0=184.18q 0=17x.18p 0=17x.18q 0=17w.18p 0=17w.18q",
   "0=17y.18p 0=17y.18q 0=185.18p 0=185.18q 0=186.18p 0=186.18q 0=184.17w 0=184.17x",
   "0=184.17y 0=184.18l 0=184.181 0=183.181 0=185.181 0=186.181 0=187.18p 0=187.18q",
   "0=189.18p 0=189.18q 0=18a.18p 0=18a.18q 0=183.18p 0=183.18q 0=184.18p 0=184.18q",
   "0=17x.18p 0=17x.18q 0=17w.18p 0=17w.18q 0=17y.18p 0=17y.18q 0=185.18p 0=185.18q",
   "0=186.18p 0=186.18q 0=184.17w 0=184.17x 0=184.17y 0=184.18l 0=184.181 0=183.181",
   "0=185.181 0=186.181 0=184.17w 0=184.17x 0=184.17y 0=184.18l 0=183.18n 0=184.18n",
   "0=187.18l 0=183.17w 0=183.17x 0=183.17y 0=184.17w 0=184.17x 0=184.17y 0=187.18l",
   "0=188.18l 0=17r.18r 0=17r.18r i=17u.17w.18l 0=17u.17x.17w 0=17u.17x.17w 0=17u.17x.18l",
   "0=17u.17y.18l 0=17u.18l.17w 0=17u.18l.17x 0=17u.18l.17y 0=17w.18l.17x 0=17w.18l.17x",
   "0=17x.18l.18q 0=17x.18l.18p 0=183.17x.17w 0=183.17w.17x 0=183.17w.18p 0=183.18l.17x",
   "0=183.18l.17x 0=183.18l.17w 0=183.18l.18l 0=183.18l.18l 0=185.17x.17x 0=185.17x.17x",
   "0=185.18l.18l 0=184.17x.18l 0=184.17x.18l 0=184.17w.18q 0=184.18l.17y 0=184.18l.17y",
   "0=184.18l.18l 0=184.18l.18l 0=186.17x.18p 0=186.17y.18l 0=186.17y.18l 0=187.18l.17x",
   "0=187.18l.17x 0=187.18l.18l 0=187.18l.18q 0=189.17w.18l 0=189.18l.18l 0=189.18l.18l",
   "0=189.18l.18p 0=18a.18l.18l 0=18a.18l.18q 0=18a.18l.18p 0=18h.17y.18l 0=18h.17y.18l",
   "0=18i.18l.17x 0=18i.18l.18l 0=18k.17x.18l 0=18k.17x.18q 0=18k.17x.18p 0=18k.17w.17w",
   "0=18k.17w.17w 0=18k.17y.18l 0=18k.17y.18l 0=18k.18l.17x 0=18k.18l.17x 0=18l.17x.17w",
   "0=18l.17x.18l 0=18l.17x.18q 0=18l.17w.17x 0=18l.17w.18l 0=18l.17y.17w 0=18l.17y.18l",
   "2=18l.17w.17y 0=18n.18l.17w 0=18n.18l.18l 0=18m.17x.18l 0=18m.17x.18p 0=18m.17w.18l",
   "0=18m.17w.18l 0=18m.17w.18p 0=18m.18l.18q 0=18m.18l.18p 0=18q.18l.18l 0=18q.18l.18l",
   "0=17s.17y.18q 0=17u.17w.18q 0=17u.17w.18p 0=17u.17y.18q 0=17u.17y.18p 0=17u.18l.18q",
   "0=17u.18l.18p 0=17w.18l.18q 0=17w.17x.18p 0=17w.18l.18p 0=183.17y.18p 0=185.17x.18q",
   "0=184.17x.18q 0=186.17x.18q 0=18k.17w.18q 0=18k.18l.18q 0=18q.17x.18q 0=18q.17w.18q",
   "0=18q.18l.18q 0=18l.18l.18q 0=18i.18l.18q 0=18m.17x.18q 0=18i.18l.17x 0=18k.17x.18l",
   "0=189.18l.18q 0=18j.18l.18q 0=18m.17w.17x 0=18l.17y.18q 0=18k.17w.18l 0=18j.18l.18l",
   "0=18k.17w.18l 0=18m.17w.17x 0=17w.17x.18q 0=17x.17w.18q 0=18l.17w.18q 0=18h.18l.18q",
   "0=17s.17x.18q 0=18j.18l.18l 0=189.17w.18l 0=185.18l.18l 0=183.17y.18q 0=18m.17w.18q",
   "14=185.18k.1ci 0=18i.18k.1ci 0=17r.18k.18k.18n 0=17r.18j.17s.181 0=18l.17x.18l.17z",
   "0=185.18k.189.18l 0=181.183.18o.18k 0=189.18k.18q.18n 0=18o.183.18k.18l 0=185.18k.18p",
   "0=185.18k.18p.w.17r.18k.18k.18n.w.189.18k.18q.18n.w.18o.183.18k.18l",
   "0=17w.18k.w.17w.18k.17r.18k.18n 0=181.1cc.17r.18k j=18 0=9hd 1-1=1m 0=x 0=1r 0-1=9hy",
   "o=6c4 0=6c3 0=2n 0=2n 0-1=14 0=3f 0=3h 0-1=9hw 0-1=9hs 0-1=9hm 0-1=9hk 0-3=9ho 2=2j 0=2l",
   "0=w.lh 0=w.lh 0=w.lh 0=w.lh 0=2n 0=2n 0=2n 0=18 0=9hd 2=1n 0=1m 0=1r 0=x 0=6c4 0-1=14",
   "0=3f 0=3h 0-1=9hw 0=z 0=12 0-1=16 0=19 0=1o 0=1q 0=1p 1=2k 0-1=10 0=1s 4=w.18r 0=18g.18r",
   "0=w.18s 1=w.18t 1=w.18u 0=18g.18u 0=w.18v 0=18g.18v 0=w.18w 0=18g.18w 0=w.18x 0=18g.18x",
   "0=w.18y 0=18g.18y 0-1=17l 0-1=17m 0-1=17n 0-1=17o 0-1=17p 0=17q 0=17q 0-1=17q 0-1=17r",
   "0=17s 0=17s 0-1=17s 0-1=17t 0=17u 0=17u 0-1=17u 0=17v 0=17v 0-1=17v 0=17w 0=17w 0-1=17w",
   "0=17x 0=17x 0-1=17x 0=17y 0=17y 0-1=17y 0-1=17z 0-1=180 0-1=181 0-1=182 0=183 0=183",
   "0-1=183 0=184 0=184 0-1=184 0=185 0=185 0-1=185 0=186 0=186 0-1=186 0=187 0=187 0-1=187",
   "0=188 0=188 0-1=188 0=189 0=189 0-1=189 0=18a 0=18a 0=18a 0=18h 0=18h 0=18h 0-1=18h",
   "0=18i 0=18i 0-1=18i 0=18j 0=18j 0-1=18j 0=18k 0=18k 0-1=18k 0=18l 0=18l 0-1=18l 0=18m",
   "0=18m 0-1=18m 0=18n 0=18n 0-1=18n 0-1=18o 0-1=18p 0=18q 0=18q 0=18q 0=18k.17m 0=18k.17m",
   "0=18k.17n 0=18k.17n 0=18k.17p 0=18k.17p 0=18k.17r 0=18k.17r 4-v=x 0-p=2p 0-z=2j 0-1=879",
   "0=1a 0-1=9ho 0=9hd 0=9ob 0=9o2 0=9lt 0=9lv 0=9lx 0=9lz 0=9m1 0=9nn 0=9np 0=9nr 0=9mr",
   "0=9oc 0=9lu 0=9lw 0=9ly 0=9m0 0-1=9m2 0=9m5 0=9m7 0=9m9 0=9mb 0=9md 0=9mf 0=9mh 0=9mj",
   "0=9ml 0=9mn 0=9mp 0=9ms 0=9mu 0=9mw 0-5=9my 0=9n6 0=9n9 0=9nc 0=9nf 0-4=9ni 0=9no 0=9nq",
   "0-5=9ns 0=9nz 0=9o3 0-1=9ll 1-1=3cw 0=3hm 0=3cy 0-1=3ho 0-2=3cz 0-5=3hs 0=3dm 0-2=3d2",
   "0=3dt 0-9=3d5 3-5=3fl 2-5=3fr 2-5=3fx 2-2=3g3 3-1=4i 0=4s 0=w.lg 0=4m 0=4l 0=6g9 1=7b6",
   "0-3=6mo 0=7fk 0=7gr sx-13=1fe0 3s-z=1fiw 4c-a=1fo7 1-e=1foj 1-6=1foz 1-1=1fp7 dn-1=k0",
   "0=6e 0=ih 0=gj 1=ir 0=xuu 0=it 0=is 0-1=gm 0=5u9 0=go 0=gu 0=ix 0=h0 0=gy 0=gw 0=ij 0=87",
   "0=ik 0=h3 0=hw 0-1=iy 0=h8 0=2mmc 0=x3i 0=ha 0=2mmd 0=i6 0=2mme 0=6w 0-1=hi 0=35 0=hm",
   "0=2mmg 0-1=hp 0=hs 0=iw 0=iu 0=xuv 0=iv 0=i0 0=8s1 1=i7 0-1=ip 0=ig 0-2=cg 0=2mmi 0=2mn2",
   "xx-1e=1h34 4d-l=1h80 27u-v=1jgg gw0-v=20dc 1s-o=20fv il9-p=2p 0-9=1c v8=2jx3.2jxh",
   "0=2jx4.2jxh 0=2jx4.2jxh.2jxq 0=2jx4.2jxh.2jxr 0=2jx4.2jxh.2jxs 0=2jx4.2jxh.2jxt",
   "0=2jx4.2jxh.2jxu 2e=2jzt.2jxh 0=2jzu.2jxh 0=2jzt.2jxh.2jxq 0=2jzu.2jxh.2jxq",
   "0=2jzt.2jxh.2jxr 0=2jzu.2jxh.2jxr fz-p=2p 0-p=2p 0-p=2p 0-6=2p 1-h=2x 0-p=2p 0-p=2p 0=2p",
   "1-1=2r 2=2v 2-1=2y 2-3=32 1-7=37 0-3=2p 1=2u 1-6=2w 1-a=34 0-p=2p 0-p=2p 0-1=2p 1-3=2s",
   "2-7=2y 1-6=37 1-p=2p 0-1=2p 1-3=2s 1-4=2x 1=33 3-6=37 1-p=2p 0-p=2p 0-p=2p 0-p=2p 0-p=2p",
   "0-p=2p 0-p=2p 0-p=2p 0-p=2p 0-p=2p 0-p=2p 0-p=2p 0-p=2p 0=8h 0=fr 2-g=q9 0=qg 0-6=qr",
   "0=6pz 0-g=q9 0=qr 0-6=qr 0=6pu 0=qd 0=qg 0=qi 0=qu 0=qp 0=qo 0-g=q9 0=qg 0-6=qr 0=6pz",
   "0-g=q9 0=qr 0-6=qr 0=6pu 0=qd 0=qg 0=qi 0=qu 0=qp 0=qo 0-g=q9 0=qg 0-6=qr 0=6pz 0-g=q9",
   "0=qr 0-6=qr 0=6pu 0=qd 0=qg 0=qi 0=qu 0=qp 0=qo 0-g=q9 0=qg 0-6=qr 0=6pz 0-g=q9 0=qr",
   "0-6=qr 0=6pu 0=qd 0=qg 0=qi 0=qu 0=qp 0=qo 0-g=q9 0=qg 0-6=qr 0=6pz 0-g=q9 0=qr 0-6=qr",
   "0=6pu 0=qd 0=qg 0=qi 0=qu 0=qp 0=qo 0=rh 0=rh 2-9=1c 0-9=1c 0-9=1c 0-9=1c 0-9=1c",
   "1m8-8=ts 0-2=u2 0-a=u6 0=uj 0-1=ul 0=ww9 0=yh 0=uu 0=uw 0=yx 0=xb 0=y7 0-8=ts 0-1=u2",
   "0-1=u6 0=u9 0-5=ub 0-1=ui 0=wh 0=uu 0=ut 0=v3 0=x7 0=wup 0=xd 1oy-x=2oma ym-1=17r 0=17w",
   "0=17z 1=18o 0=182 0=17x 0=187 0=18q 0-3=18j 0=183 0=189 0=18h 0=185 0=18i 0=181 0=184",
   "0-1=17u 0=17y 0=180 0=186 0=188 0=18a 0=19q 0=1bu 0=1b5 0=19r 1=17s 0=17w 1=18n 2=17x",
   "1=18q 0-3=18j 0=183 0=189 0=18h 0=185 0=18i 1=184 0-1=17u 0=17y 1=186 1=18a 6=17w 4=17x",
   "1=18q 1=18k 1=18m 0=183 0=189 1=185 0=18i 1=184 2=17y 1=186 1=18a 1=1bu 1=19r 1=17s",
   "0=17w 1=18n 2=17x 0=187 0=18q 0=18j 1-1=18l 0=183 0=189 0=18h 0=185 0=18i 1=184 0-1=17u",
   "0=17y 1=186 0=188 0=18a 0=19q 1=1b5 1-1=17r 0=17w 0=17z 0-1=18n 0=182 0=17x 0=187 0=18q",
   "1-2=18k 0=183 0=189 0=18h 0=185 0=18i 0=181 0=184 0-1=17u 0=17y 0=180 0=186 0=188 0=18a",
   "5=17s 0=17w 0=17z 1=18o 0=182 0=17x 0=187 0=18q 1-2=18k 0=183 0=189 0=18h 0=185 0=18i",
   "0=181 0=184 0-1=17u 0=17y 0=180 0=186 0=188 0=18a g5=1c.18 0=1d.18 0=1e.18 0=1f.18",
   "0=1g.18 0=1h.18 0=1i.18 0=1j.18 0=1k.18 0=1l.18 5=14.2p.15 0=14.2q.15 0=14.2r.15",
   "0=14.2s.15 0=14.2t.15 0=14.2u.15 0=14.2v.15 0=14.2w.15 0=14.2x.15 0=14.2y.15 0=14.2z.15",
   "0=14.30.15 0=14.31.15 0=14.32.15 0=14.33.15 0=14.34.15 0=14.35.15 0=14.36.15 0=14.37.15",
   "0=14.38.15 0=14.39.15 0=14.3a.15 0=14.3b.15 0=14.3c.15 0=14.3d.15 0=14.3e.15",
   "0=9hw.37.9hx 0=2r 0=36 0=2r.2s 0=3b.3e 1-p=2p 0=2w.3a 0=31.3a 0=37.2s 0=37.37 0=34.34.3a",
   "0=3b.2r q=31.2r 0=31.2s 0=31.36 z=2s.2y 33=9kr.9jf 0=9mb.9mb 0=9md d=jez 0=i1j 0=gjw",
   "0=9mv 0=fik 0=hlm 0=r8j 0=hm1 0=fj8 0=k68 0=mch 0=k2h 0=g99 0=ivg 0=g3x 0=k34 0=g7x",
   "0=oqq 0=n4v 0=rs9 0=hkg 0=gmx 0=lxw 0=jh1 0=jmd 0=feo 0=fex 0=si2 0=ijq 0=ffx 0=gkz",
   "0=jk7 0=rxs 0=jf7 0=o01 0=o6y 0=glk 0=lts 0=kcp 0=kco 0=n5f 0=gaa 0=gxi 0=sp9",
   "4=9hw.kdo.9hx 0=9hw.fex.9hx 0=9hw.fik.9hx 0=9hw.i2x.9hx 0=9hw.m9l.9hx 0=9hw.jf7.9hx",
   "0=9hw.nh3.9hx 0=9hw.gd9.9hx 0=9hw.k0n.9hx 7=ivr 0=gkv 1we-9=1c 1ds6=fgd 0=fg8 0=fgh",
   "0=2tcy 0=fog 0=fqm 0=fqz 0=fsy 0=fwa 0=fx5 0=fzb 0=fyn 0=ae6 0=2ud6 0=g25 0=g2c 0=g2s",
   "0=g3b 0=2u58 0=aex 0=g2v 0=g3x 0=2u6j 0=g47 0=g4k 0=fkc 0=g4s 0=g51 0=3ly7 0=g6t 0=g77",
   "0=afz 0=g8r 0=g92 0=gaa 0=gaf 0=ahh 0=gcn 0=gcp 0=gdg 0=ge2 0-1=ged 0=gev 0=gg9 0=ggh",
   "0=ggq 0=ghf 0=ghp 0=ghr 0=ghr 0=ghr 0=2v58 0=m7k 0=gju 0=gkf 0=2vdv 0=gkr 0=gkx 0=gli",
   "0=gpq 0=gmw 0=gnc 0=go8 0=gpu 0=gs6 0=gsw 0=gur 0=gv7 0=gw4 0=gw4 0=gwp 0=gx7 0=gxf",
   "0=gxu 0=h7a 0=gzq 0=h7b 0=h1t 0=h2s 0=g7b 0=hke 0=hce 0=hdg 0=he5 0=haj 0=hf6 0=hf5",
   "0=hik 0=2x9g 0=hki 0=hkn 0=hl2 0=hlm 0=hlu 0=hnm 0=2xm0 0=2xnu 0=hrg 0=hsr 0=ht3 0=hqw",
   "0=huu 0=aum 0=av0 0=hzc 0=i0u 0=i0u 0=2y88 0=i4j 0=i54 0=i5j 0=i5v 0=2yhk 0=i67 0=i6e",
   "0=itv 0=i76 0=ayp 0=i8w 0=i9a 0=ibk 0=ia5 0=2z1g 0=if7 0=2z1i 0=ige 0=igb 0=igs 0-1=ijl",
   "0=b3j 0=ikd 0=ilk 0=im5 0=ind 0=b4y 0=2zr7 0=b5o 0=ipc 0=ipf 0=ipi 0=iq2 0=3pg2 0=iri",
   "0=3035 0=3035 0=poh 0=isi 0=isi 0=b7r 0=335k 0=3cgq 0=iua 0=iuj 0=b8j 0=ivu 0=ix9 0=ixj",
   "0=iyh 0=j29 0=bay 0=ba4 0=j2s 0=30t0 0=j47 0=j7s 0=j7w 0=j7y 0=j7w 0=j96 0=j9q 0=jaq",
   "0=jac 0=jan 0=jby 0=jci 0=jcm 0=jdc 0=jdn 0=jfh 0=jht 0=jis 0=jm8 0=31n0 0=jlp 0=jjw",
   "0=jmw 0=jnn 0=jqc 0=31td 0=js2 0=jph 0=jop 0=bhq 0=ju1 0=jum 0=jvh 0=juf 0=bjg 0=k0f",
   "0=k18 0=32mi 0=k4j 0=kc8 0=k7d 0=bo9 0=k9d 0=bns 0=bms 0=g42 0=g45 0=kcg 0=k9o 0=pf1",
   "0=deh 0=kd3 0=kd7 0=kdd 0=kf2 0=ker 0=33cz 0=bpl 0=kje 0=kg5 0=klu 0=kn9 0=33hp 0=kni",
   "0=kkf 0=kr8 0=brx 0=ksi 0=kv7 0=kx6 0=l2g 0=33xf 0=l3v 0=bvc 0=l5t 0=34br 0=l78 0=bwu",
   "0=l82 0=l9b 0-1=la2 0=34p9 0=2yvf 0=34sa 0=le6 0=354s 0=lhb 0=lhp 0=lev 0=ljq 0=lku",
   "0=lmf 0=lkx 0=lm1 0=lmg 0=lmt 0=357i 0=lkk 0=lrj 0=lta 0=c37 0=lvv 0=lvr 0=35jl 0=lq1",
   "0=m0e 0=35ni 0=35ou 0=m2u 0=m61 0=m5a 0=m57 0=c5y 0=m6i 0=m7x 0=m7r 0=m99 0=2u5h 0=mdh",
   "0=368z 0=mfw 0=36i3 0=mjs 0=mk5 0=mkw 0=36yw 0=mm8 0=mmt 0=3779 0=37dg 0=mt6 0=mtn 0=cdo",
   "0=mud 0=ce0 0=ce0 0=myv 0=mzg 0=n01 0=n0l 0=n2i 0=cgr 0=n50 0=386u 0=n5q 0=389e 0=n74",
   "0=2zrz 0=nbk 0=38v5 0=38vs 0=38zo 0=cn0 0=cnc 0=nhw 0=394j 0=394i 0=395l 0=396b 0-1=nj2",
   "0=nj3 0=nka 0=cop 0=nm3 0=cp2 0=cra 0=39r1 0=nri 0=nt8 0=nv0 0=ctf 0=3a5i 0=nyu 0=3a8q",
   "0=3a9x 0=o0f 0=o2z 0=cvj 0=o5c 0=o5m 0=o5r 0=3at8 0=3b1j 0=3b1j 0=oa6 0=d1e 0=3b8r 0=og6",
   "0=og9 0=d2f 0=3beo 0=onm 0=d5s 0=oo8 0=oo3 0=oow 0=3c06 0=orn 0=d8h 0=ouf 0=ow2 0=oxx",
   "0=d9w 0=3ciw 0=3cjr 0=dax 0=3cnt 0=p6i 0=3cqm 0=p79 0=pa2 0=pad 0=3d22 0=3d43 0=pcw",
   "0=3d7s 0=pdc 0=33a7 0=ded 0=pf6 0=phf 0=dfv 0=pj2 0=hx1 0=3dlz 0=3dmd 0=33bn 0=33bw",
   "0=poh 0=pok 0=sda 0=dij 0=psh 0=psb 0=pst 0=gc3 0=ptd 0=ptf 0=ptp 0=puu 0=3ebg 0=put",
   "0=pwd 0=pyb 0=q0d 0=pwj 0=q0t 0=q1z 0=q53 0=pxv 0=q16 0=q18 0=q1o 0=3eie 0=3eqz 0=3emt",
   "0=dnv 0=q9d 0=q9f 0=qae 0=3g0a 0=qck 0=3f3g 0=dp9 0=dpd 0=3f75 0=3ff6 0=dpn 0=qj4 0=qjg",
   "0=qjr 0=qjt 0=qll 0=qko 0=qoe 0=qn6 0=qrd 0=qp4 0=qqz 0=qrq 0=dsn 0=qu9 0=qv5 0=dtl",
   "0=qxs 0=qxv 0=3giv 0=r13 0=r1a 0=dv9 0=r22 0=aez 0=3gz2 0=3h46 0=dz2 0=dzb 0=rds 0=rfx",
   "0=rka 0=rpx 0=3hrc 0=rsb 0=rsx 0=rvf 0=rxz 0=3i9b 0=2upw 0=s0b 0=rzw 0=s1c 0=2uvy 0=s7o",
   "0=sag 0=3jki 0=3jl9 0=sk4 0=smp 0=snl 0=3ju6 0=snv 0=svs 0-1=t07 0=sxo 0=t89 0=t91",
   "0=3ksa 0=tjf 0=ej9 0=tkn 0=3l2v 0=eli 0=ts3 0=iia 0=tur 0=3ltx 0=3lzu 0=epa 0=epi 0=u00",
   "0=3mdm 0=er6 0=3mhi 0=u17 0=u17 0=u21 0=3mpi 0=u76 0=eur 0=u95 0=ucn 0=ude 0=uf2 0=ez2",
   "0=3nsg 0=umq 0=uv4 0=v0d 0=f66 0=f71 0=v3b 0=3owe 0=f7c 0=3oxx 0=3p5a 0=3p8x 0=vcr 0=f9y",
   "0=veh 0=vem 0=vet 0=vf3 0=vfa 0=vgb 0=3pxc"]

/-- The characters that are ignored. -/
def domainIgnored : RangeTable := RangeTable.ofLines
  ["4t ip 2rz-1 18z-1 2d-4 1kr 2c-4 5-5 3ck 14ez-f 6n 4g 11bz-3 43z-7 h479-6n"]

/-- The characters that are valid as they are. -/
def domainValid : RangeTable := RangeTable.ofLines
  ["0-1s q-10 x-6 1 1-1 1 1-1 4-1 3 3 n 7-w 1 1 1 1 1 1 1 1 1 1 1 1 1 1 1 1 1 1 1 1 1 1 1 1",
   "1 3 1-1 1 1 1 3 1 1 1 2 1 1 1 1 1 1 1 1 1 1 1 1 1 1 1 1 1 1 1 1 1 1 2 1 1 1 2 1 2 3-1 4",
   "2 3-2 2 2 1 1 2 1-1 1 2 3 1 2-2 1-6 a 1 1 1 1 1 1 1-1 1 1 1 1 1 1 1 1 1-1 4 3 1 1 1 1 1",
   "1 1 1 1 1 1 1 1 1 1 1 1 1 1 1 1 1 1 1 1 1 1 1 1-6 2 2-1 1 4 1 1 1 1-2o 9-u 6-1 5-2i 2",
   "3-8 1-v 1 1 1 1 3-2 i r-y 8 1 1 1 1 1 1 1 1 1 1 1 1 3 2 1 2-1 1f-1b 1 1 1 1 1 1 1 1 1 1",
   "1 1 1 1 1 1 1-8 1 1 1 1 1 1 1 1 1 1 1 1 1 1 1 1 1 1 1 1 1 1 1 1 1 1 1 2 1 1 1 1 1 1-1 1",
   "1 1 1 1 1 1 1 1 1 1 1 1 1 1 1 1 1 1 1 1 1 1 1 1 1 1 1 1 1 1 1 1 1 1 1 1 1 1 1 1 1 1 1 1",
   "1 1 1 15-19 1-2 2-2 1-1i 8-q 4-5 h-l 1-2f 4-2r 1-1b 2-1m 2-2s e-1m 2-1c 2-e 1-r 2 1-a",
   "5-v 7-22 1-38 8-z 1-7 2-1 2-l 1-6 1 3-3 2-8 2-1 2-3 8 8-3 2-o 2-2 1-5 4-1 2-l 1-6 1 2",
   "2-1 2 1-4 4-1 2-2 3 a 9-g a-2 1-8 1-2 1-l 1-6 1-1 1-4 2-9 1-2 1-2 2 f-3 2-b 7-6 1-2 1-7",
   "2-1 2-l 1-6 1-1 1-4 2-8 2-1 2-2 7-2 7-4 2-h a-1 1-5 3-2 1-3 3-1 1 1-1 3-1 3-2 3-b 4-4",
   "3-2 1-3 2 6 e-k 5-c 1-2 1-m 1-f 2-8 1-2 1-3 7-1 1-2 1-1 2-3 2-9 7-l 1-2 1-m 1-9 1-4 2-8",
   "1-2 1-3 7-1 5-2 1-3 2-9 1-2 c-c 1-2 1-1e 1-2 1-5 4-f 2-p 1-2 1-h 3-n 1-8 1 2-6 3 4-5 1",
   "1-7 6-9 2-2 c-1d 1-6 4-s 11-1 1 1-4 1-n 1 1-b 1-9 2-4 1 1-6 1-9 4-1 w-b 1-1h 1-3 1-3 1-3",
   "1-3 1-3 1-b 1-2 4-1 1 5-6 1-g 1-3 1-3 1-3 1-3 1-3 1-b 1-2 1-e 1-c 11-4f 1c-17 1-2p 2-6f",
   "1-3 2-6 1 1-3 2-14 1-3 2-w 1-3 2-6 1 1-3 2-e 1-1k 1-3 2-1u 2-v 3-p 6-2d a-hr 1-r 3-2g",
   "7-l 9-n 9-j c-c 1-2 1-1 c-1f 2-13 2-9 6-9 6-a 5-9 6-2g 7-16 5-1x a-u 1-b 4-b 4 3-15 2-4",
   "b-17 4-p 6-a 3-1p 2-1s 1-s 2-a 6-9 6-d 2-19 2-b k-24 1-4l 8-1n 3-e 3-1e a 1h-7 8-16 5-17",
   "3 b i s-c 1-x 11-1r 1 1 1 1 1 1 1 1 1 1 1 1 1 1 1 1 1 1 1 1 1 1 1 1 1 1 1 1 1 1 1 1 1 1",
   "1 1 1 1 1 1 1 1 1 1 1 1 1 1 1 1 1 1 1 1 1 1 1 1 1 1 1 1 1 1 1 1 1 1 1 1 1 1 1 1 1-4 2-1",
   "1 1 1 1 1 1 1 1 1 1 1 1 1 1 1 1 1 1 1 1 1 1 1 1 1 1 1 1 1 1 1 1 1 1 1 1 1 1 1 1 1 1 1 1",
   "1 1 1 1 1-8 8-5 a-7 8-7 8-5 a-7 8-7 8 1 1 1 1 1 1 1f-1 4 f 9-2 3-1 8-2 1-3 e l-1 2 1-4",
   "1-b 3 8-2 2 2-3 1 1-7 3-c 1-6 1t-7 1-o e-w j 3 b 2-1 5-1 3 1 1 1 4 b 6-3 5-5 1c-2 1-4",
   "1-1 4-4b 2 2-6v 2-72 m-a 4g-10g 1-2u 3-2s 1-46 2-3t 1c-1b 1 3-1 1 1 1 4 1-1 1-5 5 1 1 1",
   "1 1 1 1 1 1 1 1 1 1 1 1 1 1 1 1 1 1 1 1 1 1 1 1 1 1 1 1 1 1 1 1 1 1 1 1 1 1 1 1 1 1 1 1",
   "1 1-7 1 1-3 1 5-18 1 5 2-1j 8 e-n 9-6 1-6 1-6 1-6 1-6 1-6 1-6 1-6 1-3h y-p 1-3 1-2a 7i",
   "1-1e 1 3-4 1-2d 2-1 2-1 1-2m 6-16 2o-1 e-1x a-f 20-7 1b ao-m8c 3-1i 9-9n l 1 1 1 1 1 1 1",
   "1 1 1 1 1 1 1 1 1 1 1 1 1 1 1-i 1 1 1 1 1 1 1 1 1 1 1 1 1 1 2-2h 8-x 1 1 1 1 1 1 1-2 1 1",
   "1 1 1 1 1 1 1 1 1 1 1 1 1 1 1 1 1 1 1 1 1 1 1 1 1 1 1 1 1 1-7 1 1 2 1 1 1 1-3 1 1-1 1",
   "1-2 1 1 1 1 1 1 1 1 1 1 5 5 1 1 1 1 1 1 1 4 1 2 1 1 1 1 1 1 1 q-1 2-1e 3-9 6-1j 8-1x 8-b",
   "6-37 b-t 3-25 1-a 4-w 1-1i 9-d 2-9 2-2u o-r a-5 2-5 2-5 9-6 1-6 1-17 4-8 1-1 2c-19 2-9",
   "6-8mb c-m 4-1c 6qa-1 1 1-1 a 1 1-1 2-2 6s 43-w a3-h 1s-1 1i-7 19-2 w-f l-1 18 b0-b 1-p",
   "1-i 1-1 1-e 2-d y-3e 5-2 4-18 3-2f 1-c 3 1b-19 3m-s 3-1c f-r 4-z 9-t 5-16 5-t 1-10 4-d",
   "2a-39 2-9 1a-z 4-13 8-1f b 13-a 1-e 1-6 1-1 3-1f c-8m 9-l a-7 o 3j-5 2 1-17 1-1 3 2-m",
   "1-1z 8-8 1c-i 1-1 5-w 3-q 5-q 12-1j 4-j 2-1d 1-1 5-7 1-2 1-s 2-2 4-9 7-8 7-1r w-12 4-b",
   "9-1h 3-s 2-q 5-p 7-3 c-6 28-20 3b-1e 7-19 8-9 6-f p-s 8-1 5s-u 1-15 1-2 2-1 g-5 8-8 x-19",
   "8-15 m-p 12-r k-m 9-25 4-z 9-1p 1-4 d-o 7-9 6-1g 1-h 8-12 9-2n 1-j b-h 1-1a 1q-6 1 1-3",
   "1-e 1-a 6-1m 5-9 6-3 1-7 2-1 2-l 1-6 1-1 1-4 1-9 2-1 2-2 2 6 5-6 2-6 3-4 b-9 1 2 1-11",
   "1-9 1 2 1-3 1-9 1-1 8-1 t-2j 1-4 u-1z 8-9 4m-1h 2-11 y-1w b-9 6-c j-1l 6-9 6-j s-q 2-e",
   "4-m 55-1n 3o-1e c-7 2 2-7 1-1 1-t 1-1 2-b 9-9 1y-7 2-19 2-a r-1z 8-2a d-20 7-9 2e-7 2g-x",
   "e-9 6-8 1-18 1-d a-s 3-v 2-l 1-d 21-6 1-1 1-17 3 1-1 1-8 8-9 6-5 1-1 1-10 1-1 1-5 7-9",
   "6-17 4-9 6u-o 7-g 1-14 3-s 2d f-1d d-pm 2u-32 1-4 b-5f 218-2q d-tr g-l a-32y 5-g6 5a1-1l",
   "1c6-fs 7-u 1-9 4-28 1-9 6-t 2-5 a-1x a-9 1-6 1-k 5-i c0-1l 6e-1m w-o 18-22 4-1k 7-g 1s-4",
   "b-6 9-5p1 15-v 2p-36 6pp-3 1-6 1-1 1-82 f t-2 2 e-3 8-az 1s4-2y 5-c 3-8 7-9 2-3 31c-5x",
   "10-2 3-c3 6-m f-g f-19 2-m 9-37 1o-6t a-12 2-1g 7-d 8-1r 6-15 l-1x 3e-j c-j c-2e 9-o",
   "w7-i3 f-4 1-e uo-u 6-5 5x-6 1-g 2-6 1-1 1-4 2s 34-18 3-d 2-9 4-1 8w-u h-1l 5 cw-15 5y-16",
   "4 5c-u 1-l 8-1 68-6 1-3 1-1 1-e 1-5g 2-f 23-15 4-9 4-1 lt-1v 24-1o c2-1 7i-17 4-2r c-e",
   "2-e 1-e 1-10 l-4 v w-p 3-y 1-s 1k-p 2o-5 4a-rc 3-g 3-c 3-61 6-b 4 f-b 4-1j 8-9 6-13 8-t",
   "2-b 4-1 e-8 13-9j 8-d 2-c 3-a 3-1k 1 4-f 2-b 4-9 7-42 1-2j a sl-wyn w-3dp 2-4gd 2-5rk",
   "f-h9 3he-3t6 5-6jt"]

end Unicode

end SurfaceBridge
